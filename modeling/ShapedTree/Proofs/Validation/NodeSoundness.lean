import ShapedTree.Proofs.Validation.ValueSoundness

namespace ShapedTree

open Run

namespace Validation

variable {rules : Rules} {value : ValueRun} {VL : ValueLaw} {schema : Schema}
  {record : Entries Value} {place : Place}

theorem expand_ensures {raw : Value} (h : ∀ short, schema.info.shortform = some short →
      ∀ raw place, Ensures (value short.field raw place)
        (Answers (VL short.field raw place.setting))) :
    Ensures (expand rules value raw schema place)
      (Answers (Expands VL schema place.setting raw)) := by
  unfold expand
  split
  next es shape => exact .pure ⟨es, rfl, .record shape⟩
  next shape =>
    split
    next => exact Ensures.report.bind fun _ => .pure fun no => no.elim
    next short declared =>
      refine (h short declared raw _).bind_answer (fun v => ?_) (.pure trivial)
      refine (Ensures.lift _).bind fun es => ?_
      exact .pure fun expanded taken => ⟨es, rfl, .shortform shape declared taken expanded⟩

theorem checkType_ensures :
    Ensures (checkType rules schema record place) fun _ => TypeFits schema record := by
  unfold checkType
  split
  next membership type choice named =>
    split
    next =>
      refine (Ensures.lift _).bind fun shown => ?_
      exact Ensures.report.mono fun _ no _ => no.elim
    next same =>
      refine .pure fun membership' type' choice' named' => ?_
      cases choice.symm.trans choice'
      cases named.symm.trans named'
      simpa using same
  next none =>
    refine .pure fun membership type choice named => ?_
    exact (none membership type choice named).elim

theorem checkKeys_ensures (es : List (String × Value)) :
    Ensures (checkKeys rules schema place es) fun _ => KeysFit rules schema es := by
  induction es with
  | nil => exact .pure (by simp [KeysFit])
  | cons e rest ih =>
    obtain ⟨key, raw⟩ := e
    unfold checkKeys
    split
    next unknown =>
      split
      next strict => exact Ensures.report.bind fun _ => ih.mono fun _ _ no => no.elim
      next lenient =>
        refine (Ensures.log _ _).bind fun _ => ih.mono fun _ _ _ strict => ?_
        cases lenient.symm.trans strict
    next known =>
      refine ih.mono fun _ fits strict e he => ?_
      rcases List.mem_cons.mp he with rfl | he
      · simpa using known
      · exact fits strict e he

theorem produce_ensures (d : FieldDefault) :
    Ensures (produce d) fun made => (∃ v, made = some v ∧ Produces d v) ∨
      made = none ∧ ∃ generate, d = .computed generate := by
  cases d with
  | constant v => exact .pure (.inl ⟨v, rfl, .constant v⟩)
  | factory made => exact (Ensures.lift made).bind fun v => .pure fun h => .inl ⟨v, rfl, .factory h⟩
  | counting cell make =>
    refine Ensures.get.bind fun s => Ensures.bind (P := fun _ => True) ?_ fun _ => ?_
    · exact Ensures.modify fun _ => ⟨List.prefix_refl _, List.prefix_refl _⟩
    · refine (Ensures.lift (make (s.memory.read cell))).bind fun v => ?_
      exact .pure fun made _ _ => .inl ⟨v, rfl, .counting made⟩
  | computed generate => exact .pure (.inr ⟨rfl, generate, rfl⟩)

theorem start_ensures (spec : FieldSpec) :
    Ensures (start schema record spec) (Starts record spec) := by
  unfold start
  split
  next raw given =>
    split
    next note _ => exact (Ensures.log _ _).bind fun _ => .pure fun _ => .supplied given
    next => exact .pure (.supplied given)
  next left =>
    split
    next default => exact .pure (.absent left default)
    next d default =>
      refine (produce_ensures d).bind fun made => .pure ?_
      rintro (⟨v, rfl, hv⟩ | ⟨rfl, generate, rfl⟩)
      · exact .produced left default hv
      · exact .computed left default

theorem resolve_ensures {draft : Draft} {spec : FieldSpec} {raw : Value} {defaulted : Bool}
    (h : ∀ raw place, Ensures (value spec raw place) (Answers (VL spec raw place.setting))) :
    Ensures (resolve value place draft spec raw defaulted) fun d =>
      ∃ v, VL spec raw (place.setting.under draft.view) v ∧ d = draft.set spec.name v defaulted := by
  refine (h raw _).bind_answer (fun v => ?_) (.pure trivial)
  exact .pure fun hv => ⟨v, hv, rfl⟩

theorem firstPass_ensures (specs : List FieldSpec)
    (h : ∀ spec ∈ specs, ∀ raw place, Ensures (value spec raw place)
      (Answers (VL spec raw place.setting))) (draft : Draft) :
    Ensures (firstPass rules value schema record place draft specs) fun r =>
      FirstPass rules.registry.kinds VL record place.setting draft specs r.1 r.2 := by
  induction specs generalizing draft with
  | nil => exact .pure (.done draft)
  | cons spec rest ih =>
    have next := ih fun other hm => h other (by simp [hm])
    unfold firstPass
    refine Ensures.halted.bind fun stopped => ?_
    cases stopped with
    | true => exact (next draft).bind fun r => .pure fun _ no => by cases no
    | false =>
      refine (start_ensures spec).bind fun started => ?_
      match started with
      | none => exact (next draft).bind fun r => .pure fun pass start _ => .absent start pass
      | some (raw, defaulted) =>
        simp only
        split
        next waits =>
          rw [Bool.and_eq_true, Bool.not_eq_true'] at waits
          exact (next draft).bind fun r => .pure fun pass start _ => .waits start waits pass
        next ready =>
          refine (resolve_ensures (h spec (by simp))).bind fun d => ?_
          refine (next d).bind fun r => .pure fun pass resolved start _ => ?_
          obtain ⟨v, hv, rfl⟩ := resolved
          refine .fills start (fun waits => ready ?_) hv pass
          rw [Bool.and_eq_true, Bool.not_eq_true']
          exact waits

theorem secondPass_ensures (slots : List Slot)
    (h : ∀ slot ∈ slots, ∀ raw place, Ensures (value slot.spec raw place)
      (Answers (VL slot.spec raw place.setting))) (earlier : List String) (draft : Draft) :
    Ensures (secondPass rules value place earlier draft slots) fun d =>
      SecondPass VL place.setting earlier draft slots d := by
  induction slots generalizing earlier draft with
  | nil => exact .pure (.done earlier draft)
  | cons slot rest ih =>
    have next := ih fun other hm => h other (by simp [hm])
    unfold secondPass
    refine Ensures.halted.bind fun stopped => ?_
    cases stopped with
    | true => exact (next _ draft).mono fun _ _ no => by cases no
    | false =>
      simp only [Bool.false_eq_true, if_false]
      split
      next raw defaulted waiting =>
        refine (resolve_ensures (h slot (by simp))).bind fun d => ?_
        refine (next _ d).mono fun last pass resolved _ => ?_
        obtain ⟨v, hv, rfl⟩ := resolved
        exact .waited waiting hv pass
      next generate waiting supplied default =>
        refine (Ensures.lift _).bind fun raw => ?_
        refine (resolve_ensures (h slot (by simp))).bind fun d => ?_
        refine (next _ d).mono fun last pass resolved made _ => ?_
        obtain ⟨v, hv, rfl⟩ := resolved
        exact .computed waiting supplied default made hv pass
      next settled absent =>
        -- Nothing waits in the slot, and it was supplied or has no generator.
        refine (next _ draft).mono fun last pass _ => .settled ?_ pass
        constructor
        · cases waiting : slot.waiting with
          | none => rfl
          | some w => exact (settled w.1 w.2 waiting).elim
        · cases supplied : slot.supplied with
          | true => exact .inl rfl
          | false =>
            refine .inr fun generate default => ?_
            cases waiting : slot.waiting with
            | none => exact absent generate waiting supplied default
            | some w => exact settled w.1 w.2 waiting

theorem checkMissing_ensures (slots : List Slot) :
    Ensures (checkMissing rules schema place slots) fun _ => Complete slots := by
  induction slots with
  | nil => exact .pure (by simp [Complete])
  | cons slot rest ih =>
    unfold checkMissing
    simp only
    split
    next => exact Ensures.report.bind fun _ => ih.mono fun _ _ no => no.elim
    next supplied =>
      refine ih.mono fun _ complete other hother required default => ?_
      rcases List.mem_cons.mp hother with rfl | hother
      · simpa [required, default] using supplied
      · exact complete other hother required default

theorem checkNode_ensures {draft : Draft} :
    Ensures (checkNode rules schema draft place) fun passed => passed = true ∧
      NodePasses schema (draft.snapshot schema.fieldNames) place.setting := by
  unfold checkNode
  split
  next none => exact .pure ⟨rfl, by simp [NodePasses, none]⟩
  next check some =>
    refine (Ensures.lift _).bind fun verdict => ?_
    cases verdict with
    | pass =>
      refine .pure fun pass => ⟨rfl, fun other same => ?_⟩
      cases some.symm.trans same
      exact pass
    | fail => exact Ensures.report.bind fun _ => .pure fun no => no.elim
    | failWith => exact Ensures.report.bind fun _ => .pure fun no => no.elim

/-- The draft of a node, from the names of its keys to its last field. -/
def fill (rules : Rules) (value : ValueRun) (schema : Schema) (record : Entries Value)
    (place : Place) : Run Draft := do
  checkType rules schema record place
  checkKeys rules schema place record
  let (slots, draft) ← firstPass rules value schema record place { schema := schema.name }
    schema.fields
  let draft ← secondPass rules value place [] draft slots
  checkMissing rules schema place slots
  return draft

/-- A record becomes a node if its draft is filled without an issue and passes the node's check. -/
theorem checkFields_eq :
    checkFields rules value schema record place = do
      let (draft, flawed) ← (fill rules value schema record place).watched
      if flawed then return none
      else if ← halted rules then return none
      else if ← checkNode rules schema draft place then
        return some (draft.finish schema.fieldNames schema.choiceType schema.compactable)
      else return none := by
  simp only [checkFields, fill, Run.watched, bind_assoc, pure_bind, decide_eq_true_eq]

theorem firstPass_returns (specs : List FieldSpec) (draft : Draft) :
    Returns (firstPass rules value schema record place draft specs) fun r =>
      r.1.map Slot.spec = specs := by
  induction specs generalizing draft with
  | nil => exact .pure rfl
  | cons spec rest ih =>
    unfold firstPass
    refine .bind fun stopped => ?_
    cases stopped with
    | true => exact (ih draft).bind_of fun r hr => .pure (by simp [hr])
    | false =>
      refine .bind fun started => ?_
      match started with
      | none => exact (ih draft).bind_of fun r hr => .pure (by simp [hr])
      | some (raw, defaulted) =>
        simp only
        split
        next => exact (ih draft).bind_of fun r hr => .pure (by simp [hr])
        next => exact .bind fun d => (ih d).bind_of fun r hr => .pure (by simp [hr])

theorem fill_ensures
    (h : ∀ spec ∈ schema.fields, ∀ raw place, Ensures (value spec raw place)
      (Answers (VL spec raw place.setting))) :
    Ensures (fill rules value schema record place) fun last =>
      ∃ slots first, TypeFits schema record ∧ KeysFit rules schema record ∧
        FirstPass rules.registry.kinds VL record place.setting { schema := schema.name }
          schema.fields slots first ∧
        SecondPass VL place.setting [] first slots last ∧ Complete slots := by
  refine checkType_ensures.bind fun _ => (checkKeys_ensures record).bind fun _ => ?_
  refine (firstPass_ensures schema.fields h _).bind_returns (firstPass_returns schema.fields _) ?_
  rintro ⟨slots, first⟩ specs
  have hslots : ∀ slot ∈ slots, slot.spec ∈ schema.fields := fun slot hslot =>
    specs ▸ List.mem_map_of_mem hslot
  refine (secondPass_ensures slots (fun slot hslot => h _ (hslots slot hslot)) [] first).bind
    fun last => ?_
  refine (checkMissing_ensures slots).bind fun _ => .pure ?_
  exact fun complete nested explicit keys type =>
    ⟨slots, first, type, keys, explicit, nested, complete⟩

theorem checkFields_ensures
    (h : ∀ spec ∈ schema.fields, ∀ raw place, Ensures (value spec raw place)
      (Answers (VL spec raw place.setting))) :
    Ensures (checkFields rules value schema record place)
      (Answers (FieldsAccept rules VL schema record place.setting)) := by
  rw [checkFields_eq]
  refine (fill_ensures h).watched.bind fun (last, flawed) => ?_
  cases flawed with
  | true => exact .pure fun no => by cases no.1
  | false =>
    refine Ensures.halted.bind fun stopped => ?_
    cases stopped with
    | true => exact .pure fun no => by cases no
    | false =>
      refine checkNode_ensures.bind fun passed => ?_
      cases passed with
      | false => exact .pure fun no => by cases no.1
      | true =>
        refine .pure fun passes _ filled => ⟨_, rfl, ?_⟩
        obtain ⟨slots, first, type, keys, explicit, nested, complete⟩ := filled.2
        exact .intro type keys explicit nested complete passes.2

theorem expanded_ensures
    (h : ∀ spec ∈ schema.allFields, ∀ raw place, Ensures (value spec raw place)
      (Answers (VL spec raw place.setting))) {name : String}
    (found : rules.registry.find? name = some schema)
    (shallow : rules.maxDepth.lt place.depth = false) (raw : Value) :
    Ensures (expand rules value raw schema place >>= fun
        | none => pure none
        | some record => checkFields rules value schema record place) fun answer =>
      place.kwargs.missing (schema.info.requires.getD []) = [] →
        Answers (NodeAccepts rules VL raw name place.setting) answer := by
  refine (expand_ensures fun short declared =>
    h short.field (List.mem_append_right _ (by simp [declared]))).bind_answer (fun es => ?_)
      (.pure trivial)
  refine (checkFields_ensures fun spec hspec =>
    h spec (List.mem_append_left _ hspec)).mono fun answer fields expands args => ?_
  exact fields.mono fun n accepted => .intro found shallow args expands accepted

/-- A node that a run comes to without issues is accepted by the rules, where the law of values is
known for the fields of its schema. -/
theorem checkNodeWith_ensures_of_fields {name : String}
    (h : ∀ schema, rules.registry.find? name = some schema → ∀ spec ∈ schema.allFields,
      ∀ raw place, Ensures (value spec raw place) (Answers (VL spec raw place.setting)))
    (raw : Value) (place : Place) :
    Ensures (checkNodeWith rules value raw name place)
      (Answers (NodeAccepts rules VL raw name place.setting)) := by
  unfold checkNodeWith
  refine Ensures.halted.bind fun stopped => ?_
  cases stopped with
  | true => exact .pure fun no => by cases no
  | false =>
    simp only [Bool.false_eq_true, if_false]
    split
    next => exact Ensures.report.bind fun _ => .pure fun no => no.elim
    next schema found =>
      split
      next => exact Ensures.report.bind fun _ => .pure fun no => no.elim
      next shallow =>
        have fields := expanded_ensures (h schema found) found (Bool.eq_false_iff.mpr shallow) raw
        split
        next =>
          refine Ensures.bind (P := fun _ => False) .throw fun _ => ?_
          exact fields.mono fun _ _ no => no.elim
        next args => exact fields.mono fun answer accepted _ => accepted (by simpa using args)

/-- A node that a run comes to without issues is accepted by the rules. -/
theorem checkNodeWith_ensures {P : FieldSpec → Prop} (registered : rules.registry.Every P)
    (h : ∀ spec, spec.Every P → ∀ raw place, Ensures (value spec raw place)
      (Answers (VL spec raw place.setting))) (raw : Value) (name : String) (place : Place) :
    Ensures (checkNodeWith rules value raw name place)
      (Answers (NodeAccepts rules VL raw name place.setting)) :=
  checkNodeWith_ensures_of_fields (fun schema found spec hspec =>
    h spec (registered schema (List.mem_of_find?_eq_some found) spec hspec)) raw place

theorem checkValue_eq (node : NodeRun) :
    checkValue rules node questionLimit = checkSpec rules node (checkValue rules node 999) := rfl

end Validation

/-- A validation is valid exactly if its run from the root answers with the node, free of issues. -/
theorem Registry.validate_eq_valid_iff {r : Registry} {memory : Memory} {raw : Value}
    {schema : String} {o : ValidateOptions} {n : Node} :
    (r.validate memory raw schema o).result = .ok (.valid n) ↔
      r.frozen = true ∧ ∃ t, o.run r raw schema { memory } = (.ok (some n), t) ∧ t.Clean := by
  unfold validate
  cases r.frozen with
  | false => simp
  | true =>
    simp only [Bool.not_true, Bool.false_eq_true, if_false, true_and]
    rcases hrun : o.run r raw schema { memory } with ⟨e | (_ | m), t⟩
    · refine ⟨nofun, ?_⟩
      rintro ⟨t', heq, -⟩
      cases (Prod.mk.inj heq).1
    · refine ⟨nofun, ?_⟩
      rintro ⟨t', heq, -⟩
      cases (Prod.mk.inj heq).1
    · by_cases clean : t.issues = #[]
      · constructor
        · intro valid
          simp only [clean, Array.isEmpty_empty, if_true, Except.ok.injEq,
            ValidationResult.valid.injEq] at valid
          subst valid
          exact ⟨t, rfl, clean⟩
        · rintro ⟨t', heq, -⟩
          cases (Prod.mk.inj heq).1
          simp [clean]
      · have recorded : t.issues.isEmpty = false := by simpa using clean
        refine ⟨fun valid => by simp [recorded] at valid, ?_⟩
        rintro ⟨t', heq, hclean⟩
        rw [← (Prod.mk.inj heq).2] at hclean
        exact absurd hclean clean

end ShapedTree
