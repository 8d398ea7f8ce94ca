import Mathlib.Tactic.Abel
import ShapedTree.Proofs.Validation.ValueTally

namespace ShapedTree

/-- The warning that a field is deprecated, if it is. -/
def Schema.notice? (s : Schema) (spec : FieldSpec) : Option String :=
  spec.info.deprecated.map fun note => s!"{s.name}.{spec.name} is deprecated: {note}"

/-- The warnings that a node gives rise to: one for each deprecated field that it has and that is not
marked as a default. -/
def Registry.deprecations (r : Registry) (n : Node) : List String :=
  match r.find? n.schema with
  | none => []
  | some s => s.fields.filterMap fun spec =>
    if n.has spec.name && !n.isDefaulted spec.name then s.notice? spec else none

/-- The warning of a field as a tally. -/
def Schema.notice (s : Schema) (spec : FieldSpec) : Multiset String := ↑(s.notice? spec).toList

/-- The tally of a node's own warnings. -/
def Registry.notices (r : Registry) (n : Node) : Multiset String := ↑(r.deprecations n)

namespace Draft

variable {weigh : Node → Multiset String} {schema : Schema} {d : Draft} {spec : FieldSpec}

/-- What a field of a draft weighs: its value, and its own warning unless it is a default. -/
def share (weigh : Node → Multiset String) (schema : Schema) (d : Draft) (spec : FieldSpec) :
    Multiset String :=
  match d.value? spec.name with
  | none => 0
  | some v => v.weight weigh + if d.isDefaulted spec.name then 0 else schema.notice spec

/-- What a draft weighs. -/
def weight (weigh : Node → Multiset String) (schema : Schema) (d : Draft) : Multiset String :=
  (schema.fields.map (d.share weigh schema)).sum

theorem weight_empty (name : String) :
    Draft.weight weigh schema { schema := name } = 0 := by
  have none : schema.fields.map (Draft.share weigh schema { schema := name }) =
      schema.fields.map fun _ => 0 := rfl
  rw [weight, none]
  simp

/-- A field that is set for the first time adds its share. -/
theorem weight_set {v : Value} {mark : Bool} (distinct : schema.fieldNames.Nodup)
    (declared : spec ∈ schema.fields) (lacks : d.get? spec.name = none)
    (defined : v.isUndefined = false) :
    (d.set spec.name v mark).weight weigh schema =
      d.weight weigh schema + (v.weight weigh + if mark then 0 else schema.notice spec) := by
  have held : (d.set spec.name v mark).value? spec.name = some v :=
    value?_of_get? (by rw [get?_set, if_pos rfl]) defined
  have own : (d.set spec.name v mark).share weigh schema spec =
      v.weight weigh + if mark then 0 else schema.notice spec := by
    simp only [share, held, isDefaulted_set, if_true]
  have before : d.share weigh schema spec = 0 := by
    simp only [share, value?_of_none lacks]
  obtain ⟨left, right, fields⟩ := List.append_of_mem declared
  have whole : schema.fields.Perm (spec :: (left ++ right)) := fields ▸ List.perm_middle
  have apart : spec.name ∉ (left ++ right).map FieldSpec.name :=
    (List.nodup_cons.mp ((whole.map FieldSpec.name).nodup_iff.mp distinct)).1
  have others : ∀ f ∈ left ++ right,
      (d.set spec.name v mark).share weigh schema f = d.share weigh schema f := by
    intro f hf
    have other : f.name ≠ spec.name := ne_of_mem_of_not_mem (List.mem_map_of_mem hf) apart
    simp only [share, value?, get?_set, isDefaulted_set, if_neg other]
  rw [weight, weight, (whole.map _).sum_eq, (whole.map (d.share weigh schema)).sum_eq,
    List.map_cons, List.map_cons, List.sum_cons, List.sum_cons, own, before, zero_add,
    List.map_congr_left others, add_comm]

/-- The warnings of the node that a draft is finished to. -/
theorem deprecations_finish {r : Registry} (found : r.find? schema.name = some schema)
    (distinct : schema.fieldNames.Nodup) (named : d.schema = schema.name)
    (choiceType : Option String) (compactable : List String) :
    r.deprecations (d.finish schema.fieldNames choiceType compactable) =
      schema.fields.filterMap fun spec =>
        if (d.value? spec.name).isSome && !d.isDefaulted spec.name then schema.notice? spec
        else none := by
  have same : (d.finish schema.fieldNames choiceType compactable).schema = schema.name := named
  simp only [Registry.deprecations, same, found]
  refine List.filterMap_congr fun spec hspec => ?_
  have declared : spec.name ∈ schema.fieldNames := List.mem_map_of_mem hspec
  have has : (d.finish schema.fieldNames choiceType compactable).has spec.name =
      (d.value? spec.name).isSome := by
    rw [Bool.eq_iff_iff, has_finish distinct]
    exact and_iff_right declared
  rw [has, isDefaulted_finish declared]

/-- The shares of some fields are their warnings and what their values weigh. -/
theorem sum_share (specs : List FieldSpec) :
    (↑(specs.filterMap fun spec =>
      if (d.value? spec.name).isSome && !d.isDefaulted spec.name then schema.notice? spec
      else none) : Multiset String) +
      ((d.entries (specs.map FieldSpec.name)).map fun e => e.2.weight weigh).sum =
    (specs.map (d.share weigh schema)).sum := by
  induction specs with
  | nil => rfl
  | cons spec specs ih =>
    rw [List.map_cons, List.map_cons, List.sum_cons, ← ih]
    simp only [entries, share, List.filterMap_cons]
    cases d.value? spec.name with
    | none => simp
    | some v =>
      cases d.isDefaulted spec.name with
      | true => simp [add_left_comm]
      | false =>
        cases notice : schema.notice? spec with
        | none => simp [Schema.notice, notice, add_left_comm]
        | some text =>
          simp only [Option.isSome_some, Bool.not_false, Bool.and_self, if_true, notice,
            Option.map_some, List.map_cons, List.sum_cons, Schema.notice, Option.toList_some,
            Bool.false_eq_true, if_false, Multiset.coe_nil, ← Multiset.cons_coe,
            ← Multiset.singleton_add]
          abel

/-- The node that a draft is finished to weighs as much as the draft. -/
theorem weight_finish {r : Registry} (found : r.find? schema.name = some schema)
    (distinct : schema.fieldNames.Nodup) (named : d.schema = schema.name)
    (choiceType : Option String) (compactable : List String) :
    (Value.node (d.finish schema.fieldNames choiceType compactable)).weight r.notices =
      d.weight r.notices schema := by
  rw [Value.weight_node, values_finish distinct, Registry.notices,
    deprecations_finish found distinct named]
  exact sum_share schema.fields

end Draft

open Run

namespace Validation

variable {rules : Rules} {weigh : Node → Multiset String} {value : ValueRun} {schema : Schema}
  {record : Entries Value} {place : Place}

/-- Checks of a field's values answer in a clean run, and warn as much as the answer weighs. -/
def FieldTallies (weigh : Node → Multiset String) (value : ValueRun) (spec : FieldSpec) : Prop :=
  ∀ raw place, Tallies (value spec raw place) fun answer w =>
    ∃ v, answer = some v ∧ v.isUndefined = false ∧ w = v.weight weigh

/-- The law of values that are defined. -/
def Definite : ValueLaw := fun _ _ _ v => v.isUndefined = false

theorem FieldTallies.answers {spec : FieldSpec} (h : FieldTallies weigh value spec) (raw : Value)
    (place : Place) :
    Ensures (value spec raw place) (Answers (Definite spec raw place.setting)) :=
  (h raw place).ensures.mono fun _ ⟨_, v, same, defined, _⟩ => ⟨v, same, defined⟩

/-- What is warned of a field when it starts from so much: a supplied value is warned of at once. -/
def announced (schema : Schema) (spec : FieldSpec) : Option (Value × Bool) → Multiset String
  | some (_, false) => schema.notice spec
  | _ => 0

/-- The warnings of the slots whose values wait. -/
def pending (schema : Schema) (slots : List Slot) : Multiset String :=
  (slots.map fun slot => announced schema slot.spec slot.waiting).sum

theorem announced_add (schema : Schema) (spec : FieldSpec) (raw v : Value) (mark : Bool) :
    announced schema spec (some (raw, mark)) + v.weight weigh =
      v.weight weigh + if mark then 0 else schema.notice spec := by
  cases mark with
  | true => exact (zero_add _).trans (add_zero _).symm
  | false => exact add_comm _ _

theorem produce_silent (d : FieldDefault) : Silent (produce d) := by
  cases d with
  | constant v => exact .pure _
  | factory made => exact (Silent.lift made).bind fun _ => .pure _
  | counting cell make =>
    refine Silent.get.bind fun s => Silent.bind (.modify fun _ => ?_) fun _ => ?_
    · rfl
    · exact (Silent.lift (make (s.memory.read cell))).bind fun _ => .pure _
  | computed generate => exact .pure _

theorem start_tallies (spec : FieldSpec) :
    Tallies (start schema record spec) fun started w => w = announced schema spec started := by
  unfold start
  split
  next raw given =>
    split
    next note deprecated =>
      refine (Tallies.warn _).bind fun _ => .pure ?_
      rintro w rfl
      simp [announced, Schema.notice, Schema.notice?, deprecated]
    next none => exact .pure (by simp [announced, Schema.notice, Schema.notice?, none])
  next =>
    split
    next => exact .pure rfl
    next d _ =>
      refine .after (produce_ensures d) (produce_silent d) fun made => .pure fun _ => ?_
      cases made <;> rfl

theorem resolve_tallies {draft : Draft} {spec : FieldSpec} {raw : Value} {mark : Bool}
    (h : FieldTallies weigh value spec) :
    Tallies (resolve value place draft spec raw mark) fun d w =>
      ∃ v, v.isUndefined = false ∧ d = draft.set spec.name v mark ∧ w = v.weight weigh := by
  refine (h raw _).bind fun answer => ?_
  cases answer with
  | none => exact .pure fun _ ⟨_, no, _⟩ => by cases no
  | some v =>
    refine .pure ?_
    rintro w ⟨u, same, defined, counted⟩
    cases same
    exact ⟨v, defined, rfl, (add_zero w).trans counted⟩

/-- Behind the first pass, the warnings are what the draft has gained, and those of the values that
wait. -/
theorem firstPass_tallies (distinct : schema.fieldNames.Nodup) (specs : List FieldSpec)
    (h : ∀ spec ∈ specs, FieldTallies weigh value spec) (among : specs ⊆ schema.fields)
    (apart : (specs.map FieldSpec.name).Nodup) (draft : Draft) :
    Tallies (firstPass rules value schema record place draft specs) fun r w =>
      (∀ spec ∈ specs, Lacks draft spec) →
        r.2.weight weigh schema + pending schema r.1 = draft.weight weigh schema + w := by
  induction specs generalizing draft with
  | nil => exact .pure fun _ => rfl
  | cons spec rest ih =>
    obtain ⟨own, others⟩ := List.forall_mem_cons.mp h
    obtain ⟨declared, among⟩ := List.cons_subset.mp among
    obtain ⟨new, apart⟩ := List.nodup_cons.mp apart
    have next := ih others among apart
    unfold firstPass
    refine .guard ((next draft).bind fun r => .pure fun _ _ => trivial) ?_
    refine (start_tallies spec).bind fun started => ?_
    rcases started with _ | ⟨raw, mark⟩
    · refine (next draft).bind fun r => .pure fun w counted w' none fresh => ?_
      have behind := counted (List.forall_mem_cons.mp fresh).2
      simpa [pending, announced, none] using behind
    · simp only
      split
      next =>
        refine (next draft).bind fun r => .pure fun w counted w' read fresh => ?_
        have behind := counted (List.forall_mem_cons.mp fresh).2
        simp only [pending, List.map_cons, List.sum_cons] at behind ⊢
        rw [add_left_comm, behind, read, add_zero, add_left_comm]
      next =>
        refine (resolve_tallies own).bind fun d => (next d).bind fun r => .pure ?_
        rintro w counted w' ⟨v, defined, rfl, rfl⟩ w'' read fresh
        obtain ⟨lacks, fresh⟩ := List.forall_mem_cons.mp fresh
        have behind := counted fun s hs => (fresh s hs).of_agree
          (agree_set (ne_of_mem_of_not_mem (List.mem_map_of_mem hs) new))
        rw [Draft.weight_set distinct declared lacks.1 defined, ← announced_add, ← read] at behind
        simp only [pending, List.map_cons, List.sum_cons, announced, zero_add] at behind ⊢
        rw [behind]
        abel

/-- A value that waits is not set yet, nor is one that is computed. -/
def Open (draft : Draft) (slots : List Slot) : Prop :=
  ∀ slot ∈ slots, ¬ slot.Settled → Lacks draft slot.spec

theorem Open.set {draft : Draft} {slot : Slot} {rest : List Slot} {v : Value} {mark : Bool}
    (new : slot.name ∉ rest.map Slot.name) (h : Open draft (slot :: rest)) :
    Open (draft.set slot.spec.name v mark) rest := by
  intro s hs unsettled
  have other : s.spec.name ≠ slot.spec.name :=
    ne_of_mem_of_not_mem (List.mem_map_of_mem (f := Slot.name) hs) new
  exact (h s (List.mem_cons_of_mem slot hs) unsettled).of_agree (agree_set other)

/-- Behind the second pass, the warnings of the values that waited are those of the draft. -/
theorem secondPass_tallies (distinct : schema.fieldNames.Nodup) (slots : List Slot)
    (h : ∀ slot ∈ slots, FieldTallies weigh value slot.spec)
    (among : slots.map Slot.spec ⊆ schema.fields) (apart : (slots.map Slot.name).Nodup)
    (earlier : List String) (draft : Draft) :
    Tallies (secondPass rules value place earlier draft slots) fun last w =>
      Open draft slots → last.weight weigh schema =
        draft.weight weigh schema + pending schema slots + w := by
  induction slots generalizing earlier draft with
  | nil => exact .pure fun _ => by simp [pending]
  | cons slot rest ih =>
    obtain ⟨own, others⟩ := List.forall_mem_cons.mp h
    obtain ⟨declared, among⟩ := List.cons_subset.mp among
    obtain ⟨new, apart⟩ := List.nodup_cons.mp apart
    have next := ih others among apart
    unfold secondPass
    refine .guard (next _ draft).top ?_
    split
    next raw mark waiting =>
      refine (resolve_tallies own).bind fun d => (next _ d).mono ?_
      rintro last w counted w' ⟨v, defined, rfl, rfl⟩ open_
      have unsettled : ¬ slot.Settled := fun done => by cases done.1.symm.trans waiting
      have lacks := open_ slot List.mem_cons_self unsettled
      -- What was pending for the slot now belongs to the draft.
      rw [counted (open_.set new), Draft.weight_set distinct declared lacks.1 defined,
        ← announced_add schema slot.spec raw]
      simp only [pending, List.map_cons, List.sum_cons, waiting]
      abel
    next generate waiting unsupplied default =>
      refine .after (.lift _) (.lift _) fun raw => ?_
      refine (resolve_tallies own).bind fun d => (next _ d).mono ?_
      rintro last w counted w' ⟨v, defined, rfl, rfl⟩ - open_
      have unsettled : ¬ slot.Settled := by
        rintro ⟨-, supplied | never⟩
        · cases unsupplied.symm.trans supplied
        · exact never generate default
      have lacks := open_ slot List.mem_cons_self unsettled
      rw [counted (open_.set new), Draft.weight_set distinct declared lacks.1 defined]
      simp only [pending, List.map_cons, List.sum_cons, waiting, announced, if_true]
      abel
    next settled _ =>
      refine (next _ draft).mono fun last w counted open_ => ?_
      have waiting : slot.waiting = none := by
        cases waiting : slot.waiting with
        | none => rfl
        | some w => exact (settled w.1 w.2 waiting).elim
      rw [counted fun s hs => open_ s (List.mem_cons_of_mem slot hs)]
      simp only [pending, List.map_cons, List.sum_cons, waiting, announced, zero_add]

theorem checkType_tallies : Tallies (checkType rules schema record place) fun _ w => w = 0 := by
  unfold checkType
  split
  next membership type _ _ =>
    split
    next => exact .after (.lift type.json) (.lift _) fun shown => .report
    next => exact .pure rfl
  next => exact .pure rfl

theorem checkKeys_tallies (es : List (String × Value)) :
    Tallies (checkKeys rules schema place es) fun _ w => w = 0 := by
  induction es with
  | nil => exact .pure rfl
  | cons e rest ih =>
    have behind : Tallies (checkKeys rules schema place rest) fun _ w => ∀ v, v = 0 → v + w = 0 :=
      ih.mono fun _ _ counted v none => by rw [none, counted, add_zero]
    unfold checkKeys
    split
    next =>
      split
      next => exact Tallies.report.bind fun _ => behind
      next => exact (Tallies.debug _).bind fun _ => behind
    next => exact ih

theorem checkMissing_tallies (slots : List Slot) :
    Tallies (checkMissing rules schema place slots) fun _ w => w = 0 := by
  induction slots with
  | nil => exact .pure rfl
  | cons slot rest ih =>
    unfold checkMissing
    simp only
    split
    next =>
      refine Tallies.bind (P := fun _ _ => False) .report fun _ => ?_
      exact ih.mono fun _ _ _ _ no => no.elim
    next => exact ih

theorem checkNode_tallies {draft : Draft} :
    Tallies (checkNode rules schema draft place) fun _ w => w = 0 := by
  unfold checkNode
  split
  next => exact .pure rfl
  next check _ =>
    refine .after (.lift _) (.lift _) fun verdict => ?_
    cases verdict with
    | pass => exact .pure fun _ => rfl
    | fail | failWith => exact .refuse

/-- The draft that is filled weighs as much as was warned of. -/
theorem fill_tallies (distinct : schema.fieldNames.Nodup)
    (h : ∀ spec ∈ schema.fields, FieldTallies weigh value spec) :
    Tallies (fill rules value schema record place) fun last w =>
      last.weight weigh schema = w := by
  have answers : ∀ spec ∈ schema.fields, ∀ raw place, Ensures (value spec raw place)
      (Answers (Definite spec raw place.setting)) := fun spec hspec => (h spec hspec).answers
  have first : Tallies (firstPass rules value schema record place { schema := schema.name }
      schema.fields) fun r w =>
      ((∀ spec ∈ schema.fields, Lacks { schema := schema.name } spec) →
        r.2.weight weigh schema + pending schema r.1 =
          Draft.weight weigh schema { schema := schema.name } + w) ∧
      FirstPass rules.registry.kinds Definite record place.setting
        { schema := schema.name } schema.fields r.1 r.2 :=
    (firstPass_tallies distinct schema.fields h (List.Subset.refl _) distinct _).and_ensures
      (firstPass_ensures schema.fields answers _)
  refine checkType_tallies.bind fun _ => (checkKeys_tallies record).bind fun _ => ?_
  refine first.bind_returns (firstPass_returns schema.fields _) ?_
  rintro ⟨slots, d⟩ specs
  have among : slots.map Slot.spec ⊆ schema.fields := specs ▸ List.Subset.refl _
  have own : ∀ slot ∈ slots, FieldTallies weigh value slot.spec := fun slot hslot =>
    h _ (among (List.mem_map_of_mem hslot))
  have apart : (slots.map Slot.name).Nodup := by
    have names : slots.map Slot.name = schema.fieldNames := by
      rw [Schema.fieldNames, ← specs, List.map_map]
      rfl
    exact names ▸ distinct
  refine (secondPass_tallies distinct slots own among apart [] d).bind fun last => ?_
  refine (checkMissing_tallies slots).bind fun _ => .pure ?_
  rintro w₅ rfl w₄ nested w₃ ⟨explicit, pass⟩ w₂ rfl w₁ rfl
  have open_ : Open d slots := by
    intro slot hslot unsettled
    cases pass.stands distinct (fun _ _ => ⟨rfl, rfl⟩) slot hslot with
    | waits _ _ lacks => exact lacks
    | left _ _ _ lacks => exact lacks
    | held settled _ => exact (unsettled settled).elim
  rw [nested open_, explicit fun _ _ => ⟨rfl, rfl⟩, Draft.weight_empty]
  simp

/-- A node weighs as much as was warned of while it was made. -/
theorem checkFields_tallies (found : rules.registry.find? schema.name = some schema)
    (distinct : schema.fieldNames.Nodup)
    (h : ∀ spec ∈ schema.fields, FieldTallies rules.registry.notices value spec) :
    Tallies (checkFields rules value schema record place)
      (Charged fun n => (Value.node n).weight rules.registry.notices) := by
  have answers : ∀ spec ∈ schema.fields, ∀ raw place, Ensures (value spec raw place)
      (Answers (Definite spec raw place.setting)) := fun spec hspec => (h spec hspec).answers
  have named : Ensures (fill rules value schema record place) fun last =>
      last.schema = schema.name := by
    refine (fill_ensures answers).mono ?_
    rintro last ⟨slots, first, -, -, explicit, nested, -⟩
    exact nested.schema_eq.trans explicit.schema_eq
  rw [checkFields_eq]
  refine ((fill_tallies distinct h).and_ensures named).watched.bind fun (last, flawed) => ?_
  cases flawed with
  | true => exact .pure fun _ no => by cases no.1
  | false =>
    refine .guard (.pure trivial) (checkNode_tallies.bind fun passed => ?_)
    cases passed with
    | false => exact .pure fun _ _ _ _ => .none
    | true =>
      refine .pure ?_
      rintro w rfl v ⟨-, counted, same⟩
      refine .some ?_
      rw [Draft.weight_finish found distinct same, counted]
      simp

/-- Without a shortform, nothing is warned of before a node's fields are. -/
theorem expand_tallies (plain : schema.info.shortform = none) (raw : Value) :
    Tallies (expand rules value raw schema place) fun _ w => w = 0 := by
  unfold expand
  split
  next => exact .pure rfl
  next =>
    split
    next => exact .refuse
    next short declared => cases plain.symm.trans declared

/-- In a registry without shortforms, a check of nodes warns as much as its answer weighs. -/
theorem expanded_tallies (plain : schema.info.shortform = none)
    (found : rules.registry.find? schema.name = some schema) (distinct : schema.fieldNames.Nodup)
    (h : ∀ spec ∈ schema.fields, FieldTallies rules.registry.notices value spec) (raw : Value)
    (place : Place) : Tallies (expand rules value raw schema place >>= fun
      | none => pure none
      | some record => checkFields rules value schema record place)
      (Charged fun n => (Value.node n).weight rules.registry.notices) := by
  refine (expand_tallies plain raw).bind fun answer => ?_
  cases answer with
  | none => exact .pure fun _ _ => .none
  | some record =>
    refine (checkFields_tallies found distinct h).mono ?_
    rintro answer w counted v rfl
    rwa [zero_add]

theorem checkNodeWith_tallies (coherent : rules.registry.Coherent)
    (plain : ∀ s ∈ rules.registry.schemas, s.info.shortform = none)
    (h : ∀ s ∈ rules.registry.schemas, ∀ spec ∈ s.fields,
      FieldTallies rules.registry.notices value spec) :
    NodesTally rules.registry.notices (checkNodeWith rules value) := by
  intro raw name place
  unfold checkNodeWith
  refine .guard (.pure trivial) ?_
  split
  next => exact .refuse
  next schema found =>
    have known : schema ∈ rules.registry.schemas := List.mem_of_find?_eq_some found
    have named : rules.registry.find? schema.name = some schema :=
      (Registry.name_of_find? found) ▸ found
    have fields := expanded_tallies (plain schema known) named
      (coherent.fields schema known) (h schema known) raw place
    split
    next => exact .refuse
    next =>
      dsimp only
      split
      next =>
        refine Tallies.bind (P := fun _ _ => False) .throw fun _ => ?_
        exact fields.mono fun _ _ _ _ no => no.elim
      next => exact fields

/-- In a registry of built-in kinds without shortforms, what is warned of in a validation is what its
tree weighs. -/
theorem checkNodeAt_tallies (coherent : rules.registry.Coherent)
    (plain : ∀ s ∈ rules.registry.schemas, s.info.shortform = none)
    (traceable : rules.registry.Every (FieldSpec.Traceable rules.registry.kinds)) (levels : Nat) :
    NodesTally rules.registry.notices (checkNodeAt rules levels) := by
  induction levels with
  | zero => exact fun _ _ _ => .throw
  | succ levels ih =>
    refine checkNodeWith_tallies coherent plain fun s hs spec hspec raw place => ?_
    have good : spec.Every (FieldSpec.Traceable rules.registry.kinds) :=
      traceable s hs spec (List.mem_append_left _ hspec)
    rw [checkValue_eq]
    have sources := checkNodeAt_madeFrom coherent traceable levels
    refine ((checkSpec_tallies ih (good.mono fun _ h => h.builtin) raw place).and_ensures
      (checkSpec_sourced sources good raw place)).mono ?_
    rintro answer w ⟨charged, v, rfl, sourced⟩
    exact ⟨v, rfl, sourced.defined, charged v rfl⟩

end Validation

end ShapedTree
