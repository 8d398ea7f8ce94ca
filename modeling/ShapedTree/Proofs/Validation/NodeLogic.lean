import ShapedTree.Proofs.Validation.Drafts
import ShapedTree.Proofs.Validation.NodeSoundness
import ShapedTree.Proofs.Validation.ValueLogic

namespace ShapedTree

open Run Run.Logic

namespace Draft

variable {P : Value → Prop} {d : Draft}

/-- Every value of a draft satisfies `P`. -/
def All (P : Value → Prop) (d : Draft) : Prop := ∀ e ∈ d.values, P e.2

theorem All.set (h : d.All P) (field : String) {v : Value} (hv : P v) (mark : Bool) :
    (d.set field v mark).All P := by
  intro e he
  rcases Entries.mem_of_mem_put he with rfl | old
  · exact hv
  · exact h e old

theorem All.entries (h : d.All P) (fields : List String) : ∀ e ∈ d.entries fields, P e.2 :=
  fun _ he => h _ (mem_values_of_value? (mem_entries.mp he).2)

end Draft

namespace Validation

variable {rules : Rules} {L : Logic rules} {C : L.Premises} {value : ValueRun} {schema : Schema}
  {record : Entries Value} {place : Place} {depth : Nat}

theorem lookup_of_readKey {key : String} {raw : Value} (h : readKey record key = some raw) :
    record.lookup key = some raw :=
  (Option.filter_eq_some_iff.mp h).1

theorem good_of_readKey (good : C.record record) {key : String} {raw : Value}
    (h : readKey record key = some raw) : C.value raw :=
  C.parts good _ (Entries.mem_of_lookup (lookup_of_readKey h))

theorem expand_holds (hvalue : ValuesHold C value depth) (within : Within C place depth)
    (admits : schema.Admits L C.record C.stored)
    (fields : ∀ short, schema.info.shortform = some short → short.field.Every C.Admits)
    {raw : Value} (good : C.value raw) :
    L.Holds (expand rules value raw schema place) (Permits C.record) := by
  unfold expand
  split
  next es shape => exact L.pure (.some (C.entries good shape))
  next =>
    split
    next => exact L.bind (report (C.shows good)) fun _ _ => L.pure .none
    next short declared =>
      have field : Within C (place.field schema.name short.field.name) depth :=
        ⟨within.args, within.views, within.level⟩
      refine L.bind (hvalue short.field (fields short declared) raw _ good field)
        fun answer stored => ?_
      cases answer with
      | none => exact L.pure .none
      | some v =>
        have expanded := admits.expand short declared v (stored v rfl)
        exact L.bind expanded.holds fun es hes => L.pure (.some hes)

theorem checkType_holds (good : C.record record) :
    L.Holds (checkType rules schema record place) fun _ => True := by
  unfold checkType
  split
  next membership type _ named =>
    split
    next =>
      refine L.bind (C.type good (lookup_of_readKey named)).holds fun text _ => ?_
      exact report (C.shows (good_of_readKey good named))
    next => exact top
  next => exact top

theorem checkKeys_holds {es : List (String × Value)} (good : ∀ e ∈ es, C.value e.2) :
    L.Holds (checkKeys rules schema place es) fun _ => True := by
  induction es with
  | nil => exact top
  | cons e rest ih =>
    obtain ⟨first, others⟩ := List.forall_mem_cons.mp good
    unfold checkKeys
    split
    next =>
      split
      next => exact L.bind (report (C.shows first)) fun _ _ => ih others
      next => exact L.bind (L.log _ _) fun _ _ => ih others
    next => exact ih others

theorem produce_holds {d : FieldDefault} {post shown : Value → Prop}
    (yields : d.Yields L post shown) : L.Holds (produce d) (Permits post) := by
  cases d with
  | constant v => exact L.pure (.some yields)
  | factory made => exact L.bind (Yields.holds yields) fun v hv => L.pure (.some hv)
  | counting cell make =>
    obtain ⟨remembers, yields⟩ := yields
    have counted : produce (.counting cell make) =
        (byMemory fun m => (m.read cell, m.write cell (m.read cell + 1))) >>= fun count => do
          return some (← make count) := rfl
    rw [counted]
    exact L.bind (L.useMemory _ remembers) fun count _ =>
      L.bind (yields count).holds fun v hv => L.pure (.some hv)
  | computed generate => exact L.pure .none

theorem start_holds (good : C.record record) {spec : FieldSpec} (admits : C.Admits spec) :
    L.Holds (start schema record spec) (Permits fun started => C.value started.1) := by
  unfold start
  split
  next raw given =>
    have supplied : L.Holds (pure (some (raw, false)))
        (Permits fun started : Value × Bool => C.value started.1) :=
      L.pure (.some (good_of_readKey good given))
    split
    next => exact L.bind (L.log _ _) fun _ _ => supplied
    next => exact supplied
  next =>
    split
    next => exact L.pure .none
    next d default =>
      refine L.bind (produce_holds (admits.default d default)) fun made hmade => L.pure ?_
      rintro started same
      obtain ⟨v, rfl, rfl⟩ := Option.map_eq_some_iff.mp same
      exact hmade v rfl

theorem resolve_holds (hvalue : ValuesHold C value depth) (within : Within C place depth)
    {spec : FieldSpec} (admits : spec.Every C.Admits) {raw : Value} (good : C.value raw)
    {draft : Draft} (kept : draft.All C.stored) (mark : Bool) :
    L.Holds (resolve value place draft spec raw mark) fun draft => draft.All C.stored := by
  have seen : NodeView.All C.stored (place.stack ++ [draft.view]) := by
    intro view hview
    rcases List.mem_append.mp hview with above | here
    · exact within.views view above
    · rw [List.mem_singleton.mp here]
      exact kept
  refine L.bind (hvalue spec admits raw _ good ⟨within.args, seen, within.level⟩)
    fun answer stored => ?_
  cases answer with
  | none => exact L.pure kept
  | some v => exact L.pure (kept.set spec.name (stored v rfl) mark)

/-- A slot whose value, if one waits, may be validated. -/
structure Slot.Good (C : L.Premises) (slot : Slot) : Prop where
  spec : slot.spec.Every C.Admits
  waiting : ∀ raw mark, slot.waiting = some (raw, mark) → C.value raw

theorem firstPass_holds (hvalue : ValuesHold C value depth) (within : Within C place depth)
    (good : C.record record) {specs : List FieldSpec}
    (admits : ∀ spec ∈ specs, spec.Every C.Admits) {draft : Draft} (kept : draft.All C.stored) :
    L.Holds (firstPass rules value schema record place draft specs) fun r =>
      (∀ slot ∈ r.1, slot.Good C) ∧ r.2.All C.stored := by
  induction specs generalizing draft with
  | nil => exact L.pure ⟨List.forall_mem_nil _, kept⟩
  | cons spec rest ih =>
    obtain ⟨first, others⟩ := List.forall_mem_cons.mp admits
    -- Whatever becomes of the first field, its slot is put in front of those of the others.
    have next : ∀ (draft : Draft) (slot : Slot), draft.All C.stored → slot.Good C → L.Holds (do
        let r ← firstPass rules value schema record place draft rest
        return (slot :: r.1, r.2)) fun r : List Slot × Draft =>
          (∀ slot ∈ r.1, slot.Good C) ∧ r.2.All C.stored :=
      fun draft slot kept hslot => L.bind (ih others kept) fun r hr =>
        L.pure ⟨List.forall_mem_cons.mpr ⟨hslot, hr.1⟩, hr.2⟩
    have idle : ∀ supplied, Slot.Good C { spec, supplied } := fun supplied =>
      ⟨first, fun raw mark no => by cases no⟩
    unfold firstPass
    refine guard (next draft _ kept (idle false)) ?_
    refine L.bind (start_holds good first.self) fun started hstarted => ?_
    cases started with
    | none => exact next draft _ kept (idle false)
    | some started =>
      obtain ⟨raw, mark⟩ := started
      have hraw : C.value raw := hstarted (raw, mark) rfl
      simp only
      split
      next =>
        refine next draft _ kept ⟨first, fun raw' mark' same => ?_⟩
        cases same
        exact hraw
      next =>
        refine L.bind (resolve_holds hvalue within first hraw kept mark) fun draft kept => ?_
        exact next draft _ kept (idle _)

theorem secondPass_holds (hvalue : ValuesHold C value depth) (within : Within C place depth)
    {slots : List Slot} (good : ∀ slot ∈ slots, slot.Good C) (earlier : List String)
    {draft : Draft} (kept : draft.All C.stored) :
    L.Holds (secondPass rules value place earlier draft slots) fun draft =>
      draft.All C.stored := by
  induction slots generalizing earlier draft with
  | nil => exact L.pure kept
  | cons slot rest ih =>
    obtain ⟨⟨admits, waits⟩, others⟩ := List.forall_mem_cons.mp good
    unfold secondPass
    refine guard (ih others _ kept) ?_
    split
    next raw mark waiting =>
      have hraw : C.value raw := waits raw mark waiting
      exact L.bind (resolve_holds hvalue within admits hraw kept mark)
        fun draft kept => ih others _ kept
    next generate _ _ default =>
      have shown : GeneratorArgs.All C.stored
          ⟨place.stack, draft.snapshot earlier, place.kwargs, slot.spec.name⟩ :=
        ⟨within.views, .ofList (kept.entries earlier)⟩
      refine L.bind (Yields.holds (admits.self.default _ default _ shown)) fun raw hraw => ?_
      exact L.bind (resolve_holds hvalue within admits hraw kept true)
        fun draft kept => ih others _ kept
    next => exact ih others _ kept

theorem checkMissing_holds (slots : List Slot) :
    L.Holds (checkMissing rules schema place slots) fun _ => True := by
  induction slots with
  | nil => exact top
  | cons slot rest ih =>
    unfold checkMissing
    simp only
    split
    next => exact L.bind (report .none) fun _ _ => ih
    next => exact ih

theorem checkNode_holds (admits : schema.Admits L C.record C.stored) (draft : Draft) :
    L.Holds (checkNode rules schema draft place) fun _ => True := by
  unfold checkNode
  split
  next => exact top
  next check declared =>
    refine L.bind (admits.check check declared _).holds fun verdict _ => ?_
    cases verdict with
    | pass => exact top
    | fail => exact L.bind (report .none) fun _ _ => top
    | failWith => exact L.bind (report .none) fun _ _ => top

theorem fill_holds (hvalue : ValuesHold C value depth) (within : Within C place depth)
    (good : C.record record) (fields : ∀ spec ∈ schema.fields, spec.Every C.Admits) :
    L.Holds (fill rules value schema record place) fun draft => draft.All C.stored := by
  refine L.bind (checkType_holds good) fun _ _ => ?_
  refine L.bind (checkKeys_holds (C.parts good)) fun _ _ => ?_
  refine L.bind (firstPass_holds hvalue within good fields nofun) fun (slots, draft) h => ?_
  obtain ⟨slots_good, kept⟩ := h
  refine L.bind (secondPass_holds hvalue within slots_good [] kept) fun last kept => ?_
  exact L.bind (checkMissing_holds slots) fun _ _ => L.pure kept

theorem checkFields_holds (hvalue : ValuesHold C value depth) (within : Within C place depth)
    (good : C.record record) (admits : schema.Admits L C.record C.stored)
    (fields : ∀ spec ∈ schema.fields, spec.Every C.Admits) :
    L.Holds (checkFields rules value schema record place)
      (Permits fun n => C.stored (.node n)) := by
  rw [checkFields_eq]
  refine L.bind (L.watched (fill_holds hvalue within good fields)) fun (last, flawed) kept => ?_
  cases flawed with
  | true => exact L.pure .none
  | false =>
    refine guard (L.pure .none) (L.bind (checkNode_holds admits last) fun passed _ => ?_)
    cases passed with
    | false => exact L.pure .none
    | true =>
      exact L.pure (.some (C.node fun e he =>
        kept.entries schema.fieldNames e (Entries.mem_of_mem_ofList he)))

/-- The logic says something of the checks of nodes if it does of the checks of values, on a level
that is not too deep. -/
theorem checkNodeWith_holds
    (hvalue : rules.maxDepth.lt depth = false → ValuesHold C value depth) :
    NodesHold C (checkNodeWith rules value) depth := by
  intro raw name place good within
  unfold checkNodeWith
  refine guard (L.pure .none) ?_
  split
  next => exact L.bind (report .none) fun _ _ => L.pure .none
  next schema found =>
    have known := List.mem_of_find?_eq_some found
    split
    next => exact L.bind (report .none) fun _ _ => L.pure .none
    next shallow =>
      rw [within.level] at shallow
      have values := hvalue (Bool.eq_false_iff.mpr shallow)
      have admits := C.schema schema known
      simp only
      split
      next lacking =>
        have partial_ : ¬ L.total := fun total =>
          lacking (C.required total _ within.args schema known)
        exact L.bind (P := fun _ => False) (throw partial_) fun _ no => no.elim
      next =>
        refine L.bind (expand_holds values within admits (fun short declared =>
          C.spec.shortform found declared) good) fun answer hrecord => ?_
        cases answer with
        | none => exact L.pure .none
        | some record =>
          exact checkFields_holds values within (hrecord record rfl) admits fun spec hspec =>
            C.spec.field found hspec

end Validation

end ShapedTree
