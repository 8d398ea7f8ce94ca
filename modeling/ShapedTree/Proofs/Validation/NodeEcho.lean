import ShapedTree.Proofs.Validation.FailFast
import ShapedTree.Proofs.Validation.NodeCompleteness
import ShapedTree.Proofs.Validation.ValueEcho

namespace ShapedTree

open Run

namespace Validation

variable {rules rules' : Rules} {like : Likeness} {value value' : ValueRun} {schema : Schema}
  {record record' : Entries Value} {place : Place} {raw raw' : Value}

theorem expand_echoed (likens : rules.Likens rules' like)
    (h : ValuesEchoed like rules.registry.kinds value value') {name : String}
    (found : rules.registry.find? name = some schema)
    (plain : ∀ short, schema.info.shortform = some short →
      short.field.Every (FieldSpec.Memoryless rules.registry.kinds))
    (alike : like (.node name) raw raw') :
    Echoed (Option.Rel (RecordsAlike rules rules' like schema))
      (expand rules value raw schema place) (expand rules' value' raw' schema place) := by
  unfold expand
  have shapes := likens.records found alike
  have shortform : raw.entries? = none → ∀ short, schema.info.shortform = some short →
      like (.value short.field) raw raw' := fun bare short => likens.shortform found alike bare
  have expanded : raw.entries? = none → ∀ short, schema.info.shortform = some short →
      ∀ u es, short.expand u = .ok es → RecordsAlike rules rules' like schema es es :=
    fun bare short declared u es => likens.expanded found alike bare declared
  generalize raw.entries? = left, raw'.entries? = right at shapes shortform expanded ⊢
  cases shapes with
  | some entries => exact .pure (.some entries)
  | none =>
    simp only
    split
    next => exact .of_flawed (Ensures.report.bind fun _ => .pure fun no => no)
    next short declared =>
      have same := shortform rfl short declared
      refine (h short.field (plain short declared) raw raw' _ same).bind fun answer => ?_
      cases answer with
      | none => exact .pure .none
      | some v =>
        refine (Echoed.lift _).bind_returns (.lift _) (fun _ _ => rfl) ?_
        rintro es _ made rfl
        exact .pure (.some (expanded rfl short declared v es made))

theorem expand_returns (likens : rules.Likens rules' like) {name : String}
    (found : rules.registry.find? name = some schema) (alike : like (.node name) raw raw') :
    Run.Returns (expand rules value raw schema place) fun answer =>
      Option.Rel (RecordsAlike rules rules' like schema) answer answer := by
  have shapes := likens.records found alike
  generalize raw'.entries? = right at shapes
  unfold expand
  split
  next es shape =>
    rw [shape] at shapes
    cases shapes with
    | some records => exact .pure (.some (likens.recordLeft records))
  next bare =>
    split
    next => exact .bind fun _ => .pure .none
    next short declared =>
      refine .bind fun answer => ?_
      cases answer with
      | none => exact .pure .none
      | some v =>
        exact (Returns.lift _).bind_of fun es made =>
          .pure (.some (likens.expanded found alike bare declared made))

theorem checkType_echoed (h : RecordsAlike rules rules' like schema record record') :
    Echoed Eq (checkType rules schema record place) (checkType rules' schema record' place) :=
  .of_spotless checkType_ensures fun _ fits =>
    (Spotless.of_certain (checkType_certain (h.type fits) place)).mono fun _ _ => rfl

theorem checkKeys_echoed (h : RecordsAlike rules rules' like schema record record') :
    Echoed Eq (checkKeys rules schema place record) (checkKeys rules' schema place record') :=
  .of_spotless (checkKeys_ensures record) fun _ fits =>
    (Spotless.of_certain (checkKeys_certain (h.keys fits) place)).mono fun _ _ => rfl

/-- Raw values that two fields start from, with the mark of a default. -/
abbrev StartsAlike (like : Likeness) (spec : FieldSpec) :
    Option (Value × Bool) → Option (Value × Bool) → Prop :=
  Option.Rel fun a b => like (.value spec) a.1 b.1 ∧ a.2 = b.2

theorem produce_echoed {d : FieldDefault} (steady : ∀ cell make, d ≠ .counting cell make) :
    Echoed Eq (produce d) (produce d) := by
  cases d with
  | constant v => exact .pure rfl
  | factory made => exact (Echoed.lift made).bind fun _ => .pure rfl
  | counting cell make => exact absurd rfl (steady cell make)
  | computed generate => exact .pure rfl

theorem start_echoed {spec : FieldSpec} (h : FieldAlike like record record' spec)
    (steady : spec.PureDefault) :
    Echoed (StartsAlike like spec) (start schema record spec) (start schema record' spec) := by
  have given := h.given
  unfold start
  generalize readKey record spec.name = left, readKey record' spec.name = right at given ⊢
  cases given with
  | some alike =>
    simp only
    split
    next => exact (Echoed.log _ _).bind fun _ => .pure (.some ⟨alike, rfl⟩)
    next => exact .pure (.some ⟨alike, rfl⟩)
  | none =>
    simp only
    split
    next => exact .pure .none
    next d default =>
      have once := produce_echoed fun cell make same => steady cell make (same ▸ default)
      refine once.bind_returns (produce_returns d) (fun _ _ => rfl) ?_
      rintro (_ | v) _ makes rfl
      · exact .pure .none
      · exact .pure (.some ⟨h.made d v default (makes v rfl), rfl⟩)

/-- What a field starts from is alike with itself. -/
theorem start_returns (likens : rules.Likens rules' like) {spec : FieldSpec}
    (h : FieldAlike like record record' spec) :
    Run.Returns (start schema record spec) fun started =>
      StartsAlike like spec started started := by
  have given := likens.startLeft h.given
  unfold start
  split
  next raw supplied =>
    rw [supplied] at given
    have alike : like (.value spec) raw raw := by
      cases given with
      | some alike => exact alike
    split
    next => exact .bind fun _ => .pure (.some ⟨alike, rfl⟩)
    next => exact .pure (.some ⟨alike, rfl⟩)
  next =>
    split
    next => exact .pure .none
    next d default =>
      refine (produce_returns d).bind_of fun made makes => .pure ?_
      cases made with
      | none => exact .none
      | some v => exact .some ⟨h.made d v default (makes v rfl), rfl⟩

theorem resolve_echoed (h : ValuesEchoed like rules.registry.kinds value value') {spec : FieldSpec}
    (plain : spec.Every (FieldSpec.Memoryless rules.registry.kinds)) (draft : Draft)
    (alike : like (.value spec) raw raw') (mark : Bool) :
    Echoed Eq (resolve value place draft spec raw mark)
      (resolve value' place draft spec raw' mark) := by
  unfold resolve
  refine (h spec plain raw raw' _ alike).bind fun answer => ?_
  cases answer <;> exact .pure rfl

/-- Slots of one field, whose waiting values are alike. -/
structure Slot.Alike (like : Likeness) (a b : Slot) : Prop where
  spec : a.spec = b.spec
  supplied : a.supplied = b.supplied
  waiting : StartsAlike like a.spec a.waiting b.waiting

theorem Slot.Alike.idle {spec : FieldSpec} {supplied : Bool} :
    Slot.Alike like { spec, supplied } { spec, supplied } := ⟨rfl, rfl, .none⟩

/-- What two first passes come to: slots of the same fields, and one draft. -/
structure PassesAlike (like : Likeness) (a b : List Slot × Draft) : Prop where
  slots : List.Forall₂ (Slot.Alike like) a.1 b.1
  draft : a.2 = b.2

theorem firstPass_alike (likens : rules.Likens rules' like) (specs : List FieldSpec)
    (fields : ∀ spec ∈ specs, FieldAlike like record record' spec) (draft : Draft) :
    Run.Returns (firstPass rules value schema record place draft specs) fun r =>
      PassesAlike like r r := by
  induction specs generalizing draft with
  | nil => exact .pure ⟨.nil, rfl⟩
  | cons spec rest ih =>
    obtain ⟨first, others⟩ := List.forall_mem_cons.mp fields
    have next : ∀ (draft : Draft) (slot : Slot), slot.Alike like slot →
        Run.Returns (do let r ← firstPass rules value schema record place draft rest
                        return (slot :: r.1, r.2)) fun r => PassesAlike like r r :=
      fun draft slot same => (ih others draft).bind_of fun r passes =>
        .pure ⟨.cons same passes.slots, rfl⟩
    unfold firstPass
    refine .bind fun stopped => ?_
    cases stopped with
    | true => exact next draft _ .idle
    | false =>
      refine (start_returns likens first).bind_of fun started alike => ?_
      cases started with
      | none => exact next draft _ .idle
      | some found =>
        simp only
        split
        next => exact next draft _ ⟨rfl, rfl, alike⟩
        next => exact .bind fun draft => next draft _ .idle

theorem firstPass_echoed (likens : rules.Likens rules' like)
    (h : ValuesEchoed like rules.registry.kinds value value') (specs : List FieldSpec)
    (fields : ∀ spec ∈ specs, FieldAlike like record record' spec)
    (plain : ∀ spec ∈ specs, spec.Every (FieldSpec.Memoryless rules.registry.kinds))
    (draft : Draft) :
    Echoed (PassesAlike like) (firstPass rules value schema record place draft specs)
      (firstPass rules' value' schema record' place draft specs) := by
  induction specs generalizing draft with
  | nil => exact .pure ⟨.nil, rfl⟩
  | cons spec rest ih =>
    obtain ⟨first, others⟩ := List.forall_mem_cons.mp plain
    obtain ⟨one, more⟩ := List.forall_mem_cons.mp fields
    -- Whatever becomes of the first field, its slot is put in front of those of the others.
    have next : ∀ (draft : Draft) (a b : Slot), a.Alike like b → Echoed (PassesAlike like)
        (do let r ← firstPass rules value schema record place draft rest
            return (a :: r.1, r.2))
        (do let r ← firstPass rules' value' schema record' place draft rest
            return (b :: r.1, r.2)) :=
      fun draft a b slots => (ih more others draft).bind_returns
        (firstPass_alike likens rest more draft) (fun _ same => same) fun r r' _ passes =>
          .pure ⟨.cons slots passes.slots, passes.draft⟩
    unfold firstPass
    refine .guard (next draft _ _ .idle).grows ?_
    refine (start_echoed one first.self.default).bind_returns (start_returns likens one)
      (fun _ same => same) fun started started' _ starts => ?_
    cases starts with
    | none => exact next draft _ _ .idle
    | some pair =>
      rename_i a b
      obtain ⟨raw, mark⟩ := a
      obtain ⟨raw', mark'⟩ := b
      obtain ⟨alike, rfl⟩ := pair
      simp only [← likens.kinds, ← likens.isNull alike]
      split
      next => exact next draft _ _ ⟨rfl, rfl, .some ⟨alike, rfl⟩⟩
      next =>
        exact (resolve_echoed h first draft alike _).bind fun draft => next draft _ _ .idle

theorem secondPass_echoed (h : ValuesEchoed like rules.registry.kinds value value')
    {slots slots' : List Slot} (alike : List.Forall₂ (Slot.Alike like) slots slots')
    (plain : ∀ slot ∈ slots, slot.spec.Every (FieldSpec.Memoryless rules.registry.kinds))
    (made : ∀ slot ∈ slots, ∀ d v, slot.spec.info.default? = some d → d.Makes v →
      like (.value slot.spec) v v)
    (earlier : List String) (draft : Draft) :
    Echoed Eq (secondPass rules value place earlier draft slots)
      (secondPass rules' value' place earlier draft slots') := by
  induction alike generalizing earlier draft with
  | nil => exact .pure rfl
  | @cons slot slot' rest rest' same _ ih =>
    obtain ⟨first, others⟩ := List.forall_mem_cons.mp plain
    obtain ⟨makes, more⟩ := List.forall_mem_cons.mp made
    have next := ih others more
    obtain ⟨spec, supplied, waiting⟩ := same
    unfold secondPass
    rw [← spec, ← supplied]
    refine .guard (next _ draft).grows ?_
    generalize slot.waiting = left, slot'.waiting = right at waiting ⊢
    cases waiting with
    | @some a b pair =>
      obtain ⟨alike, mark⟩ := pair
      simp only [← mark]
      exact (resolve_echoed h first draft alike a.2).bind fun draft => next _ draft
    | none =>
      split
      next no => cases no
      next generate _ _ default =>
        refine (Echoed.lift _).bind_returns (.lift _) (fun _ _ => rfl) ?_
        rintro raw _ yields rfl
        have alike := makes _ raw default ⟨_, yields⟩
        exact (resolve_echoed h first draft alike true).bind fun draft => next _ draft
      next => exact next _ draft

theorem checkMissing_echoed {slots slots' : List Slot}
    (alike : List.Forall₂ (Slot.Alike like) slots slots') :
    Echoed Eq (checkMissing rules schema place slots)
      (checkMissing rules' schema place slots') := by
  refine .of_spotless (checkMissing_ensures slots) fun _ complete => ?_
  have complete' : Complete slots' := by
    intro slot' hslot' required default
    obtain ⟨slot, hslot, same⟩ := exists_left_of_mem alike slot' hslot'
    rw [← same.supplied]
    exact complete slot hslot (same.spec ▸ required) (same.spec ▸ default)
  exact (Spotless.of_certain (checkMissing_certain complete' place)).mono fun _ _ => rfl

theorem checkNode_echoed (draft : Draft) :
    Echoed Eq (checkNode rules schema draft place) (checkNode rules' schema draft place) := by
  unfold checkNode
  split
  next => exact .pure rfl
  next check _ =>
    refine (Echoed.lift _).bind fun verdict => ?_
    cases verdict with
    | pass => exact .pure rfl
    | fail => exact .of_flawed (Ensures.report.bind fun _ => .pure fun no => no)
    | failWith => exact .of_flawed (Ensures.report.bind fun _ => .pure fun no => no)

theorem fill_echoed (likens : rules.Likens rules' like)
    (h : ValuesEchoed like rules.registry.kinds value value')
    (plain : ∀ spec ∈ schema.fields, spec.Every (FieldSpec.Memoryless rules.registry.kinds))
    (records : RecordsAlike rules rules' like schema record record') :
    Echoed Eq (fill rules value schema record place) (fill rules' value' schema record' place) := by
  unfold fill
  refine (checkType_echoed records).bind fun _ => ?_
  refine (checkKeys_echoed records).bind fun _ => ?_
  refine (firstPass_echoed likens h schema.fields records.field plain _).bind_returns
    ((firstPass_returns schema.fields _).and
      (firstPass_alike likens schema.fields records.field _)) (fun _ passes => passes.2) ?_
  rintro ⟨slots, draft⟩ ⟨slots', _⟩ ⟨specs, -⟩ ⟨alike, rfl⟩
  have declared : ∀ slot ∈ slots, slot.spec ∈ schema.fields := fun slot hslot =>
    specs ▸ List.mem_map_of_mem hslot
  refine (secondPass_echoed h alike (fun slot hslot => plain _ (declared slot hslot))
    (fun slot hslot => (records.field _ (declared slot hslot)).made) [] draft).bind fun last => ?_
  exact (checkMissing_echoed alike).bind fun _ => .pure rfl

theorem checkFields_echoed (likens : rules.Likens rules' like)
    (h : ValuesEchoed like rules.registry.kinds value value')
    (plain : ∀ spec ∈ schema.fields, spec.Every (FieldSpec.Memoryless rules.registry.kinds))
    (records : RecordsAlike rules rules' like schema record record') :
    Echoed Eq (checkFields rules value schema record place)
      (checkFields rules' value' schema record' place) := by
  rw [checkFields_eq, checkFields_eq]
  refine (fill_echoed likens h plain records).watched.bind_rel (fun _ => ⟨rfl, rfl⟩) ?_
  rintro ⟨last, flawed⟩ ⟨_, _⟩ ⟨rfl, rfl⟩
  cases flawed with
  | true => exact .pure rfl
  | false =>
    refine .guard (.pure trivial) ((checkNode_echoed last).bind fun passed => ?_)
    cases passed <;> exact .pure rfl

theorem expanded_echoed (likens : rules.Likens rules' like)
    (plain : rules.registry.Every (FieldSpec.Memoryless rules.registry.kinds))
    (h : ValuesEchoed like rules.registry.kinds value value') {name : String}
    (found : rules.registry.find? name = some schema) (alike : like (.node name) raw raw')
    (place : Place) :
    Echoed Eq
      (expand rules value raw schema place >>= fun
        | none => pure none
        | some record => checkFields rules value schema record place)
      (expand rules' value' raw' schema place >>= fun
        | none => pure none
        | some record => checkFields rules' value' schema record place) := by
  refine (expand_echoed likens h found (fun short declared => plain.shortform found declared)
    alike).bind_returns (expand_returns likens found alike) (fun _ same => same)
    fun answer answer' _ same => ?_
  cases same with
  | none => exact .pure rfl
  | some records =>
    exact checkFields_echoed likens h (fun spec hspec => plain.field found hspec) records

/-- The check of a node finds the same in values that are alike, if the check of values does. -/
theorem checkNodeWith_echoed (likens : rules.Likens rules' like)
    (plain : rules.registry.Every (FieldSpec.Memoryless rules.registry.kinds))
    (h : ValuesEchoed like rules.registry.kinds value value') :
    NodesEchoed like (checkNodeWith rules value) (checkNodeWith rules' value') := by
  intro raw raw' name place alike
  unfold checkNodeWith
  rw [← likens.found, ← likens.maxDepth]
  refine .guard (.pure trivial) ?_
  split
  next => exact .of_flawed (Ensures.report.bind fun _ => .pure fun no => no)
  next schema found =>
    split
    next => exact .of_flawed (Ensures.report.bind fun _ => .pure fun no => no)
    next =>
      have expanded := expanded_echoed likens plain h found alike place
      simp only
      split
      next => exact .of_flawed (Ensures.bind (P := fun _ => False) .throw fun _ =>
          expanded.grows.mono fun _ _ no => no)
      next => exact expanded

/-- One level of a validation finds the same in values that are alike, if the levels below do. -/
theorem checkNodeAt_succ_echoed (likens : rules.Likens rules' like)
    (plain : rules.registry.Every (FieldSpec.Memoryless rules.registry.kinds)) {levels : Nat}
    (h : NodesEchoed like (checkNodeAt rules levels) (checkNodeAt rules' levels))
    (hc : ChoicesEchoed like rules rules' (checkNodeAt rules levels) (checkNodeAt rules' levels)) :
    NodesEchoed like (checkNodeAt rules (levels + 1)) (checkNodeAt rules' (levels + 1)) := by
  refine checkNodeWith_echoed likens plain ?_
  rw [checkValue_eq, checkValue_eq]
  exact checkSpec_echoed likens h hc

/-- Under rules that agree, validations of nodes find the same in values that are alike. -/
theorem checkNodeAt_echoed (agree : rules.Agree rules' like)
    (plain : rules.registry.Every (FieldSpec.Memoryless rules.registry.kinds))
    (plain' : rules'.registry.Every (FieldSpec.Memoryless rules'.registry.kinds)) (levels : Nat) :
    NodesEchoed like (checkNodeAt rules levels) (checkNodeAt rules' levels) := by
  induction levels generalizing rules rules' with
  | zero => exact fun _ _ _ _ _ => .throw
  | succ levels ih =>
    have forth := ih agree plain plain'
    have back := ih agree.swap plain' plain
    exact checkNodeAt_succ_echoed agree.forth plain forth
      (Choice.check_echoed_of_agree agree forth back)

end Validation

namespace Registry

open Validation

variable {r r' : Registry} {memory memory' : Memory} {raw raw' : Value} {schema : String}
  {o o' : ValidateOptions}

/-- What is valid in a validation is valid in one that echoes it, as the same node, if that one
comes to a result. -/
theorem valid_of_echoed
    (echoed : Echoed Eq (o.run r raw schema) (o'.run r' raw' schema)) {n : Node}
    {result' : ValidationResult}
    (valid : (r.validate memory raw schema o).result = .ok (.valid n))
    (returned : (r'.validate memory' raw' schema o').result = .ok result') :
    result' = .valid n := by
  obtain ⟨-, t, run, clean⟩ := validate_eq_valid_iff.mp valid
  rw [(validate_eq (frozen_of_ok returned) memory' raw' schema o').1] at returned
  obtain ⟨answer, s, run'⟩ := outcome_eq_ok returned
  obtain ⟨clean', rfl⟩ := echoed.agrees (some n) ⟨_, t, run, clean⟩ { memory := memory' } answer s
    rfl run'
  have none : s.issues = #[] := clean'
  rw [run'] at returned
  simpa [outcome, none] using returned.symm

/-- Of two raw values that are alike under rules that agree, both are valid or neither is, and they
are valid as the same node. -/
theorem valid_iff_of_agree {like : Likeness} (agree : (o.rules r).Agree (o.rules r') like)
    (plain : r.Every (FieldSpec.Memoryless r.kinds))
    (plain' : r'.Every (FieldSpec.Memoryless r'.kinds)) (alike : like (.node schema) raw raw')
    {result result' : ValidationResult}
    (first : (r.validate memory raw schema o).result = .ok result)
    (second : (r'.validate memory' raw' schema o).result = .ok result') (n : Node) :
    result = .valid n ↔ result' = .valid n := by
  have forth := checkNodeAt_echoed agree plain plain' (levels o.maxDepth)
  have back := checkNodeAt_echoed agree.swap plain' plain (levels o.maxDepth)
  constructor
  · rintro rfl
    exact valid_of_echoed (forth raw raw' schema _ alike) first second
  · rintro rfl
    exact valid_of_echoed (back raw' raw schema _ (agree.symm alike)) second first

end Registry

end ShapedTree
