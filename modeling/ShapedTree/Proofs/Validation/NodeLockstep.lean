import ShapedTree.Proofs.Validation.NodeSoundness
import ShapedTree.Proofs.Validation.ValueLockstep

namespace ShapedTree

open Run

namespace Validation

variable {P : List String → List String → Prop} {full quick : Rules} {value value' : ValueRun}
  {schema : Schema} {record : Entries Value} {p q : Place}

/-- Two checks of values go side by side, for specifications that keep runs from remembering. -/
def ValuesPaired (P : List String → List String → Prop) (e : ErrorMode) (c : KindCatalog)
    (value value' : ValueRun) : Prop :=
  ∀ spec, spec.Every (FieldSpec.Memoryless c) → ∀ raw p q, p.Beside P q →
    Paired P e (value spec raw p) (value' spec raw q)

theorem expand_follows (paths : PathRelation P) (pace : Pace full quick)
    (h : ValuesPaired P quick.errors full.registry.kinds value value')
    (plain : ∀ short, schema.info.shortform = some short →
      short.field.Every (FieldSpec.Memoryless full.registry.kinds))
    (beside : p.Beside P q) (raw : Value) :
    Follows P quick.errors (· = none) (expand full value raw schema p)
      (expand quick value' raw schema q) := by
  unfold expand
  split
  next => exact .pure _
  next =>
    split
    next =>
      refine (Follows.report rfl pace.errors beside.path _ _ _ _).bind (fun _ => .pure none) ?_
      exact fun _ _ => .pure rfl
    next short declared =>
      refine (h short.field (plain short declared) raw _ _
        (beside.field paths _ _)).follows.bind (fun answer => ?_) ?_
      · cases answer with
        | none => exact .pure none
        | some v => exact (Follows.lift _).bind_together fun es => .pure _
      · rintro _ rfl
        exact .pure rfl

theorem checkType_follows (paths : PathRelation P) (pace : Pace full quick)
    (beside : p.Beside P q) :
    Follows P quick.errors (fun _ => True) (checkType full schema record p)
      (checkType quick schema record q) := by
  unfold checkType
  split
  next membership type _ _ =>
    split
    next =>
      refine (Follows.lift _).bind_together fun shown => ?_
      exact Follows.report rfl pace.errors (beside.field paths _ _).path _ _ _ _
    next => exact .pure _
  next => exact .pure _

theorem checkKeys_inert (es : List (String × Value)) :
    Inert quick.errors (fun _ => True) (checkKeys quick schema q es) := by
  induction es with
  | nil => exact .pure trivial
  | cons e rest ih =>
    obtain ⟨key, raw⟩ := e
    unfold checkKeys
    split
    next =>
      split
      next => exact (Inert.report rfl).bind fun _ _ => ih
      next => exact (Inert.debug _).bind fun _ _ => ih
    next => exact ih

theorem checkKeys_follows (paths : PathRelation P) (pace : Pace full quick)
    (beside : p.Beside P q) (es : List (String × Value)) :
    Follows P quick.errors (fun _ => True) (checkKeys full schema p es)
      (checkKeys quick schema q es) := by
  have mode : quick.unknownFields = full.unknownFields := by rw [pace.rules]
  induction es with
  | nil => exact .pure _
  | cons e rest ih =>
    obtain ⟨key, raw⟩ := e
    unfold checkKeys
    rw [mode]
    split
    next =>
      split
      next =>
        exact (Follows.report rfl pace.errors (beside.field paths _ _).path _ _ _ _).bind
          (fun _ => ih) fun _ _ => checkKeys_inert rest
      next => exact (Follows.log _ _).bind_together fun _ => ih
    next => exact ih

theorem produce_follows {e : ErrorMode} {d : FieldDefault}
    (pure_ : ∀ cell make, d ≠ .counting cell make) :
    Follows P e (fun _ => False) (produce d) (produce d) := by
  cases d with
  | constant v => exact .pure _
  | factory made => exact (Follows.lift made).bind_together fun v => .pure _
  | counting cell make => exact absurd rfl (pure_ cell make)
  | computed generate => exact .pure _

theorem start_follows {e : ErrorMode} {spec : FieldSpec} (pure_ : spec.PureDefault) :
    Follows P e (fun _ => False) (start schema record spec) (start schema record spec) := by
  unfold start
  split
  next =>
    split
    next => exact (Follows.log _ _).bind_together fun _ => .pure _
    next => exact .pure _
  next =>
    split
    next => exact .pure _
    next d default =>
      refine (produce_follows fun cell make same => ?_).bind_together fun made => .pure _
      exact pure_ cell make (same ▸ default)

theorem resolve_follows (paths : PathRelation P)
    (h : ValuesPaired P quick.errors full.registry.kinds value value')
    (beside : p.Beside P q) {spec : FieldSpec}
    (plain : spec.Every (FieldSpec.Memoryless full.registry.kinds)) (draft : Draft) (raw : Value)
    (defaulted : Bool) :
    Follows P quick.errors (fun _ => True) (resolve value p draft spec raw defaulted)
      (resolve value' q draft spec raw defaulted) := by
  have inner : Place.Beside P
      { p.field draft.schema spec.name with stack := p.stack ++ [draft.view] }
      { q.field draft.schema spec.name with stack := q.stack ++ [draft.view] } :=
    ⟨congrArg (Setting.under · draft.view) beside.setting, (beside.field paths _ _).path⟩
  unfold resolve
  refine (h spec plain raw _ _ inner).follows.bind (fun answer => ?_) ?_
  · cases answer <;> exact .pure _
  · rintro _ rfl
    exact .pure trivial

theorem firstPass_inert (specs : List FieldSpec) (draft : Draft) :
    Inert quick.errors (fun _ => True)
      (firstPass quick value' schema record q draft specs) := by
  induction specs generalizing draft with
  | nil => exact .pure trivial
  | cons spec rest ih =>
    unfold firstPass
    exact Inert.guard rfl ((ih draft).bind fun _ _ => .pure trivial)

theorem firstPass_follows (paths : PathRelation P) (pace : Pace full quick)
    (h : ValuesPaired P quick.errors full.registry.kinds value value')
    (beside : p.Beside P q) (specs : List FieldSpec)
    (plain : ∀ spec ∈ specs, spec.Every (FieldSpec.Memoryless full.registry.kinds))
    (draft : Draft) :
    Follows P quick.errors (fun _ => True) (firstPass full value schema record p draft specs)
      (firstPass quick value' schema record q draft specs) := by
  have kinds : quick.registry = full.registry := by rw [pace.rules]
  induction specs generalizing draft with
  | nil => exact .pure _
  | cons spec rest ih =>
    have next := ih fun other hm => plain other (by simp [hm])
    unfold firstPass
    rw [kinds]
    refine Follows.guard rfl pace.errors ((next draft).grows.bind fun _ => .pure fun _ => trivial) ?_
    refine (start_follows (plain spec (by simp)).self.default).bind_together fun started => ?_
    rcases started with _ | ⟨raw, defaulted⟩
    · exact (next draft).bind (fun r => .pure _) fun _ _ => .pure trivial
    · simp only
      split
      next => exact (next draft).bind (fun r => .pure _) fun _ _ => .pure trivial
      next =>
        refine (resolve_follows paths h beside (plain spec (by simp)) draft raw defaulted).bind
          (fun d => ?_) fun d _ => (firstPass_inert rest d).bind fun _ _ => .pure trivial
        exact (next d).bind (fun r => .pure _) fun _ _ => .pure trivial

theorem secondPass_inert (slots : List Slot) (earlier : List String) (draft : Draft) :
    Inert quick.errors (fun _ => True) (secondPass quick value' q earlier draft slots) := by
  induction slots generalizing earlier draft with
  | nil => exact .pure trivial
  | cons slot rest ih =>
    unfold secondPass
    exact Inert.guard rfl (ih _ draft)

theorem secondPass_follows (paths : PathRelation P) (pace : Pace full quick)
    (h : ValuesPaired P quick.errors full.registry.kinds value value')
    (beside : p.Beside P q) (slots : List Slot)
    (plain : ∀ slot ∈ slots, slot.spec.Every (FieldSpec.Memoryless full.registry.kinds))
    (earlier : List String) (draft : Draft) :
    Follows P quick.errors (fun _ => True) (secondPass full value p earlier draft slots)
      (secondPass quick value' q earlier draft slots) := by
  induction slots generalizing earlier draft with
  | nil => exact .pure _
  | cons slot rest ih =>
    have next := ih fun other hm => plain other (by simp [hm])
    unfold secondPass
    refine Follows.guard rfl pace.errors (next _ draft).grows ?_
    split
    next raw defaulted _ =>
      exact (resolve_follows paths h beside (plain slot (by simp)) draft raw defaulted).bind
        (fun d => next _ d) fun d _ => secondPass_inert rest _ d
    next generate _ _ _ =>
      rw [beside.stack_eq, beside.kwargs_eq]
      refine (Follows.lift _).bind_together fun raw => ?_
      exact (resolve_follows paths h beside (plain slot (by simp)) draft raw true).bind
        (fun d => next _ d) fun d _ => secondPass_inert rest _ d
    next => exact next _ draft

theorem checkMissing_inert (slots : List Slot) :
    Inert quick.errors (fun _ => True) (checkMissing quick schema q slots) := by
  induction slots with
  | nil => exact .pure trivial
  | cons slot rest ih =>
    unfold checkMissing
    simp only
    split
    next => exact (Inert.report rfl).bind fun _ _ => ih
    next => exact ih

theorem checkMissing_follows (paths : PathRelation P) (pace : Pace full quick)
    (beside : p.Beside P q) (slots : List Slot) :
    Follows P quick.errors (fun _ => True) (checkMissing full schema p slots)
      (checkMissing quick schema q slots) := by
  induction slots with
  | nil => exact .pure _
  | cons slot rest ih =>
    unfold checkMissing
    simp only
    split
    next =>
      exact (Follows.report rfl pace.errors (beside.field paths _ _).path _ _ _ _).bind
        (fun _ => ih) fun _ _ => checkMissing_inert rest
    next => exact ih

theorem checkNode_follows (pace : Pace full quick) (beside : p.Beside P q) (draft : Draft) :
    Follows P quick.errors (· = false) (checkNode full schema draft p)
      (checkNode quick schema draft q) := by
  unfold checkNode
  rw [beside.stack_eq, beside.kwargs_eq]
  split
  next => exact .pure _
  next check _ =>
    refine (Follows.lift _).bind_together fun verdict => ?_
    cases verdict with
    | pass => exact .pure _
    | fail =>
      refine (Follows.report rfl pace.errors beside.path _ _ _ _).bind (fun _ => .pure false) ?_
      exact fun _ _ => .pure rfl
    | failWith =>
      refine (Follows.report rfl pace.errors beside.path _ _ _ _).bind (fun _ => .pure false) ?_
      exact fun _ _ => .pure rfl

theorem fill_follows (paths : PathRelation P) (pace : Pace full quick)
    (h : ValuesPaired P quick.errors full.registry.kinds value value')
    (plain : ∀ spec ∈ schema.fields, spec.Every (FieldSpec.Memoryless full.registry.kinds))
    (beside : p.Beside P q) :
    Follows P quick.errors (fun _ => True) (fill full value schema record p)
      (fill quick value' schema record q) := by
  have missing : ∀ (slots : List Slot) (last : Draft), Inert quick.errors (fun _ => True)
      (do checkMissing quick schema q slots; pure last) :=
    fun slots last => (checkMissing_inert slots).bind fun _ _ => .pure trivial
  have nested : ∀ r : List Slot × Draft, Inert quick.errors (fun _ => True) (do
      let last ← secondPass quick value' q [] r.2 r.1
      checkMissing quick schema q r.1
      pure last) :=
    fun r => (secondPass_inert r.1 [] r.2).bind fun last _ => missing r.1 last
  have passes : Inert quick.errors (fun _ => True) (do
      let r ← firstPass quick value' schema record q { schema := schema.name } schema.fields
      let last ← secondPass quick value' q [] r.2 r.1
      checkMissing quick schema q r.1
      pure last) :=
    (firstPass_inert schema.fields _).bind fun r _ => nested r
  unfold fill
  refine (checkType_follows paths pace beside).bind (fun _ => ?_)
    fun _ _ => (checkKeys_inert record).bind fun _ _ => passes
  refine (checkKeys_follows paths pace beside record).bind (fun _ => ?_) fun _ _ => passes
  refine (firstPass_follows paths pace h beside schema.fields plain _).bind_returns
    (firstPass_returns schema.fields _) (fun r specs => ?_) fun r _ => nested r
  have slots : ∀ slot ∈ r.1, slot.spec.Every (FieldSpec.Memoryless full.registry.kinds) :=
    fun slot hslot => plain _ (specs ▸ List.mem_map_of_mem hslot)
  refine (secondPass_follows paths pace h beside r.1 slots [] r.2).bind (fun last => ?_)
    fun last _ => missing r.1 last
  exact (checkMissing_follows paths pace beside r.1).bind (fun _ => .pure last)
    fun _ _ => .pure trivial

theorem checkFields_follows (paths : PathRelation P) (pace : Pace full quick)
    (h : ValuesPaired P quick.errors full.registry.kinds value value')
    (plain : ∀ spec ∈ schema.fields, spec.Every (FieldSpec.Memoryless full.registry.kinds))
    (beside : p.Beside P q) :
    Follows P quick.errors (· = none) (checkFields full value schema record p)
      (checkFields quick value' schema record q) := by
  rw [checkFields_eq, checkFields_eq]
  refine (fill_follows paths pace h plain beside).watched.bind (fun (last, flawed) => ?_) ?_
  · cases flawed with
    | true => exact .pure none
    | false =>
      refine Follows.guard rfl pace.errors (.pure trivial) ?_
      refine (checkNode_follows pace beside last).bind (fun passed => ?_) ?_
      · cases passed <;> exact .pure _
      · rintro _ rfl
        exact .pure rfl
  · rintro ⟨last, flawed⟩ rfl
    exact .pure rfl

/-- One check of nodes is followed by another one, if the checks of values go side by side. -/
theorem expanded_follows (paths : PathRelation P) (pace : Pace full quick)
    (plain : full.registry.Every (FieldSpec.Memoryless full.registry.kinds))
    (h : ValuesPaired P quick.errors full.registry.kinds value value') (beside : p.Beside P q)
    {name : String} (found : full.registry.find? name = some schema) (raw : Value) :
    Follows P quick.errors (· = none)
      (expand full value raw schema p >>= fun
        | none => pure none
        | some record => checkFields full value schema record p)
      (expand quick value' raw schema q >>= fun
        | none => pure none
        | some record => checkFields quick value' schema record q) := by
  refine (expand_follows paths pace h (fun short declared =>
    plain.shortform found declared) beside raw).bind (fun answer => ?_) ?_
  · cases answer with
    | none => exact .pure none
    | some record =>
      exact checkFields_follows paths pace h (fun spec hspec => plain.field found hspec) beside
  · rintro _ rfl
    exact .pure rfl

theorem checkNodeWith_follows (paths : PathRelation P) (pace : Pace full quick)
    (plain : full.registry.Every (FieldSpec.Memoryless full.registry.kinds))
    (h : ValuesPaired P quick.errors full.registry.kinds value value') :
    NodesFollow P quick.errors (checkNodeWith full value) (checkNodeWith quick value') := by
  intro raw name p q beside
  have registry : quick.registry = full.registry := by rw [pace.rules]
  have depth : quick.maxDepth = full.maxDepth := by rw [pace.rules]
  unfold checkNodeWith
  rw [registry, depth, beside.depth_eq, beside.kwargs_eq]
  refine Follows.guard rfl pace.errors (.pure trivial) ?_
  split
  next =>
    refine (Follows.report rfl pace.errors beside.path _ _ _ _).bind (fun _ => .pure none) ?_
    exact fun _ _ => .pure rfl
  next schema found =>
    split
    next =>
      refine (Follows.report rfl pace.errors beside.path _ _ _ _).bind (fun _ => .pure none) ?_
      exact fun _ _ => .pure rfl
    next =>
      have fields := expanded_follows paths pace plain h beside found raw
      simp only
      split
      next =>
        have thrown : ∀ f : Fault, Follows P quick.errors (fun _ : PUnit => False)
            (MonadExcept.throw f) (MonadExcept.throw f) := fun _ => .throw
        exact (thrown _).bind_together fun _ => fields
      next => exact fields

theorem checkValue_paired (paths : PathRelation P) (pace : Pace full quick) {m n : NodeRun}
    (h : NodesFollow P quick.errors m n) (questions : Nat) :
    ValuesPaired P quick.errors full.registry.kinds (checkValue full m questions)
      (checkValue quick n questions) := by
  intro spec plain raw p q beside
  cases questions <;> exact checkSpec_paired paths pace h plain raw beside

/-- A validation of nodes is followed by another one. -/
theorem checkNodeAt_follows (paths : PathRelation P) (pace : Pace full quick)
    (plain : full.registry.Every (FieldSpec.Memoryless full.registry.kinds)) (levels : Nat) :
    NodesFollow P quick.errors (checkNodeAt full levels) (checkNodeAt quick levels) := by
  induction levels with
  | zero => exact fun _ _ _ _ _ => .throw
  | succ levels ih =>
    exact checkNodeWith_follows paths pace plain (checkValue_paired paths pace ih _)

end Validation

end ShapedTree
