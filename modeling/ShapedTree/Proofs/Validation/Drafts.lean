import ShapedTree.Proofs.Record.Lookup
import ShapedTree.Proofs.Validation.Acceptance

namespace ShapedTree

namespace Draft

variable {d : Draft} {f g : String} {v : Value} {mark : Bool}

theorem get?_set : (d.set f v mark).get? g = if g = f then some v else d.get? g :=
  Entries.lookup_put d.values f v g

theorem isDefaulted_set :
    (d.set f v mark).isDefaulted g = if g = f then mark else d.isDefaulted g := by
  unfold set isDefaulted
  rw [Bool.eq_iff_iff]
  cases mark with
  | false => by_cases h : g = f <;> simp [h]
  | true =>
    by_cases old : f ∈ d.defaulted <;> by_cases h : g = f <;> simp [old, h]

theorem value?_of_get? (h : d.get? f = some v) (defined : v.isUndefined = false) :
    d.value? f = some v := by
  simp [value?, h, defined]

theorem value?_of_none (h : d.get? f = none) : d.value? f = none := by
  simp [value?, h]

/-- A field's value is one of the draft's. -/
theorem mem_values_of_value? (h : d.value? f = some v) : (f, v) ∈ d.values := by
  unfold value? at h
  split at h
  next w held =>
    split at h
    next => cases h
    next =>
      cases h
      exact Entries.mem_of_lookup held
  next => cases h

variable {fields : List String}

theorem keys_entries_sublist (d : Draft) (fields : List String) :
    ((d.entries fields).map Prod.fst).Sublist fields :=
  Entries.keys_filterMap_sublist d.value? fields

theorem mem_entries {e : String × Value} :
    e ∈ d.entries fields ↔ e.1 ∈ fields ∧ d.value? e.1 = some e.2 := by
  unfold entries
  rw [List.mem_filterMap]
  constructor
  · rintro ⟨f, hf, held⟩
    obtain ⟨v, hv, rfl⟩ := Option.map_eq_some_iff.mp held
    exact ⟨hf, hv⟩
  · rintro ⟨hf, held⟩
    exact ⟨e.1, hf, by rw [held]; rfl⟩

variable {choiceType : Option String} {compactable : List String}

theorem values_finish (distinct : fields.Nodup) :
    (d.finish fields choiceType compactable).values = d.entries fields :=
  Entries.ofList_of_nodup (distinct.sublist (keys_entries_sublist d fields))

theorem has_finish (distinct : fields.Nodup) :
    (d.finish fields choiceType compactable).has f = true ↔
      f ∈ fields ∧ (d.value? f).isSome = true := by
  rw [NodeOf.has, Entries.has_iff, values_finish distinct, List.mem_map]
  constructor
  · rintro ⟨e, he, rfl⟩
    obtain ⟨hf, held⟩ := mem_entries.mp he
    exact ⟨hf, by rw [held]; rfl⟩
  · rintro ⟨hf, held⟩
    obtain ⟨v, hv⟩ := Option.isSome_iff_exists.mp held
    exact ⟨(f, v), mem_entries.mpr ⟨hf, hv⟩, rfl⟩

theorem mem_defaulted_finish :
    f ∈ (d.finish fields choiceType compactable).defaulted ↔
      f ∈ fields ∧ d.isDefaulted f = true := by
  simp [finish, NodeOf.make, List.mem_filter]

theorem lookup_finish (distinct : fields.Nodup) (declared : f ∈ fields) :
    (d.finish fields choiceType compactable).values.lookup f = d.value? f := by
  rw [values_finish distinct, entries, Entries.lookup_filterMap, if_pos declared]

theorem isDefaulted_finish (declared : f ∈ fields) :
    (d.finish fields choiceType compactable).isDefaulted f = d.isDefaulted f := by
  rw [NodeOf.isDefaulted, Bool.eq_iff_iff, List.contains_iff_mem, mem_defaulted_finish]
  exact and_iff_right declared

theorem isUndefined_of_value? (h : d.value? f = some v) : v.isUndefined = false := by
  unfold value? at h
  split at h
  next w _ =>
    split at h
    next => cases h
    next defined =>
      cases h
      exact Bool.eq_false_iff.mpr defined
  next => cases h

end Draft

namespace Validation

variable {c : KindCatalog} {VL : ValueLaw} {record : Entries Value} {here : Setting}
  {d d' : Draft} {f : String}

/-- The name of a slot's field. -/
def Slot.name (slot : Slot) : String := slot.spec.name

theorem FirstPass.specs_eq {specs : List FieldSpec} {slots : List Slot}
    (h : FirstPass c VL record here d specs slots d') : slots.map Slot.spec = specs := by
  induction h with
  | done => rfl
  | absent _ _ ih => rw [List.map_cons, ih]
  | waits _ _ _ ih => rw [List.map_cons, ih]
  | fills _ _ _ _ ih => rw [List.map_cons, ih]

theorem FirstPass.schema_eq {specs : List FieldSpec} {slots : List Slot}
    (h : FirstPass c VL record here d specs slots d') : d'.schema = d.schema := by
  induction h with
  | done => rfl
  | absent _ _ ih => exact ih
  | waits _ _ _ ih => exact ih
  | fills _ _ _ _ ih => exact ih

theorem SecondPass.schema_eq {earlier : List String} {slots : List Slot}
    (h : SecondPass VL here earlier d slots d') : d'.schema = d.schema := by
  induction h with
  | done => rfl
  | waited _ _ _ ih => exact ih
  | computed _ _ _ _ _ _ ih => exact ih
  | settled _ _ ih => exact ih

/-- Two drafts agree on a field. -/
def Agree (d d' : Draft) (f : String) : Prop :=
  d'.schema = d.schema ∧ d'.get? f = d.get? f ∧ d'.isDefaulted f = d.isDefaulted f

theorem Agree.trans {d'' : Draft} (first : Agree d d' f) (second : Agree d' d'' f) :
    Agree d d'' f :=
  ⟨second.1.trans first.1, second.2.1.trans first.2.1, second.2.2.trans first.2.2⟩

theorem agree_set {g : String} {v : Value} {mark : Bool} (other : f ≠ g) :
    Agree d (d.set g v mark) f := by
  refine ⟨rfl, ?_⟩
  rw [Draft.get?_set, Draft.isDefaulted_set, if_neg other, if_neg other]
  exact ⟨rfl, rfl⟩

/-- The first pass leaves alone what is not among its fields. -/
theorem FirstPass.agree {specs : List FieldSpec} {slots : List Slot}
    (h : FirstPass c VL record here d specs slots d') (other : f ∉ specs.map FieldSpec.name) :
    Agree d d' f := by
  induction h with
  | done => exact ⟨rfl, rfl, rfl⟩
  | absent _ _ ih => exact ih (List.not_mem_of_not_mem_cons other)
  | waits _ _ _ ih => exact ih (List.not_mem_of_not_mem_cons other)
  | fills _ _ _ _ ih =>
    exact (agree_set (List.ne_of_not_mem_cons other)).trans
      (ih (List.not_mem_of_not_mem_cons other))

/-- The second pass leaves alone what is not among its fields. -/
theorem SecondPass.agree {earlier : List String} {slots : List Slot}
    (h : SecondPass VL here earlier d slots d') (other : f ∉ slots.map Slot.name) :
    Agree d d' f := by
  induction h with
  | done => exact ⟨rfl, rfl, rfl⟩
  | waited _ _ _ ih =>
    exact (agree_set (List.ne_of_not_mem_cons other)).trans
      (ih (List.not_mem_of_not_mem_cons other))
  | computed _ _ _ _ _ _ ih =>
    exact (agree_set (List.ne_of_not_mem_cons other)).trans
      (ih (List.not_mem_of_not_mem_cons other))
  | settled _ _ ih => exact ih (List.not_mem_of_not_mem_cons other)

/-- A draft holds a value that a field's specification accepted, marked only where the field has a
default. -/
def Holds (VL : ValueLaw) (here : Setting) (d : Draft) (spec : FieldSpec) : Prop :=
  ∃ (raw v : Value) (before : Draft), before.schema = d.schema ∧ VL spec raw (here.under before.view) v ∧
    d.get? spec.name = some v ∧
    (d.isDefaulted spec.name = true → spec.info.default?.isSome = true)

/-- A draft holds nothing under a field's name. -/
def Lacks (d : Draft) (spec : FieldSpec) : Prop :=
  d.get? spec.name = none ∧ d.isDefaulted spec.name = false

/-- Where a slot stands between the passes: its value waits, it may be computed, or it is done. -/
inductive Stands (VL : ValueLaw) (here : Setting) (d : Draft) (slot : Slot) : Prop
  | waits {raw : Value} {defaulted : Bool} (waiting : slot.waiting = some (raw, defaulted))
      (marked : defaulted = true → slot.spec.info.default?.isSome = true)
      (lacks : Lacks d slot.spec)
  | left (waiting : slot.waiting = none) (unsupplied : slot.supplied = false)
      (default : slot.spec.info.default? = none ∨
        ∃ generate, slot.spec.info.default? = some (.computed generate))
      (lacks : Lacks d slot.spec)
  | held (settled : slot.Settled) (holds : Holds VL here d slot.spec)

theorem Holds.of_agree {spec : FieldSpec} (h : Holds VL here d spec)
    (agree : Agree d d' spec.name) : Holds VL here d' spec := by
  obtain ⟨raw, v, before, schema, taken, value, mark⟩ := h
  obtain ⟨hschema, hvalue, hmark⟩ := agree
  exact ⟨raw, v, before, schema.trans hschema.symm, taken, hvalue.trans value,
    fun marked => mark (hmark ▸ marked)⟩

theorem Lacks.of_agree {spec : FieldSpec} (h : Lacks d spec) (agree : Agree d d' spec.name) :
    Lacks d' spec :=
  ⟨agree.2.1.trans h.1, agree.2.2.trans h.2⟩

theorem Holds.of_set {spec : FieldSpec} {raw v : Value} {mark : Bool}
    (taken : VL spec raw (here.under d.view) v)
    (marked : mark = true → spec.info.default?.isSome = true) :
    Holds VL here (d.set spec.name v mark) spec := by
  refine ⟨raw, v, d, rfl, taken, by simp [Draft.get?_set], fun h => marked ?_⟩
  simpa [Draft.isDefaulted_set] using h

theorem Starts.marked {spec : FieldSpec} {raw : Value} {defaulted : Bool}
    (h : Starts record spec (some (raw, defaulted))) :
    defaulted = true → spec.info.default?.isSome = true := by
  cases h with
  | supplied => intro no; cases no
  | produced _ default => exact fun _ => by simp [default]

theorem Starts.nothing {spec : FieldSpec} (h : Starts record spec none) :
    spec.info.default? = none ∨ ∃ generate, spec.info.default? = some (.computed generate) := by
  cases h with
  | computed _ default => exact .inr ⟨_, default⟩
  | absent _ default => exact .inl default

/-- A slot that was filled at once is left alone later. -/
theorem Starts.settled {spec : FieldSpec} {raw : Value} {defaulted : Bool}
    (h : Starts record spec (some (raw, defaulted))) :
    Slot.Settled { spec, supplied := !defaulted } := by
  refine ⟨rfl, ?_⟩
  cases h with
  | supplied => exact .inl rfl
  | produced _ default made =>
    refine .inr fun generate other => ?_
    cases default.symm.trans other
    cases made

/-- Every field stands somewhere after the first pass, if the draft held none of them before. -/
theorem FirstPass.stands {specs : List FieldSpec} {slots : List Slot}
    (h : FirstPass c VL record here d specs slots d')
    (distinct : (specs.map FieldSpec.name).Nodup) (fresh : ∀ spec ∈ specs, Lacks d spec) :
    ∀ slot ∈ slots, Stands VL here d' slot := by
  induction h with
  | done => simp
  | @absent d d' spec rest slots start next ih =>
    obtain ⟨apart, distinct⟩ := List.nodup_cons.mp distinct
    refine List.forall_mem_cons.mpr ⟨?_, ih distinct fun s hs => fresh s (by simp [hs])⟩
    have lacks : Lacks d' spec :=
      (fresh spec (by simp)).of_agree (next.agree apart)
    exact .left rfl rfl start.nothing lacks
  | @waits d d' spec rest slots raw defaulted start waits next ih =>
    obtain ⟨apart, distinct⟩ := List.nodup_cons.mp distinct
    refine List.forall_mem_cons.mpr ⟨?_, ih distinct fun s hs => fresh s (by simp [hs])⟩
    have lacks : Lacks d' spec :=
      (fresh spec (by simp)).of_agree (next.agree apart)
    exact .waits rfl start.marked lacks
  | @fills d d' spec rest slots raw v defaulted start ready taken next ih =>
    obtain ⟨apart, distinct⟩ := List.nodup_cons.mp distinct
    refine List.forall_mem_cons.mpr ⟨?_, ih distinct fun s hs => ?_⟩
    · exact .held start.settled
        ((Holds.of_set taken start.marked).of_agree (next.agree apart))
    · have other : s.name ≠ spec.name :=
        ne_of_mem_of_not_mem (List.mem_map_of_mem hs) apart
      exact (fresh s (by simp [hs])).of_agree (agree_set other)

/-- What the second pass makes of a slot: a settled one is left alone, a value that waits is taken
with its mark, and a computed one is taken as a default. -/
structure Finishes (VL : ValueLaw) (here : Setting) (d last : Draft) (slot : Slot) : Prop where
  settled : slot.Settled → Agree d last slot.spec.name
  waited : ∀ raw mark, slot.waiting = some (raw, mark) → ∃ (before : Draft) (v : Value),
    before.schema = d.schema ∧ VL slot.spec raw (here.under before.view) v ∧
    last.get? slot.spec.name = some v ∧ last.isDefaulted slot.spec.name = mark
  computed : ∀ generate, slot.waiting = none → slot.supplied = false →
    slot.spec.info.default? = some (.computed generate) → ∃ (before : Draft) (raw v : Value),
      before.schema = d.schema ∧ VL slot.spec raw (here.under before.view) v ∧
      last.get? slot.spec.name = some v ∧ last.isDefaulted slot.spec.name = true

theorem Finishes.of_agree {last : Draft} {slot : Slot} (h : Finishes VL here d' last slot)
    (agree : Agree d d' slot.spec.name) : Finishes VL here d last slot where
  settled done := agree.trans (h.settled done)
  waited raw mark waiting :=
    have ⟨before, v, schema, rest⟩ := h.waited raw mark waiting
    ⟨before, v, schema.trans agree.1, rest⟩
  computed generate waiting unsupplied default :=
    have ⟨before, raw, v, schema, rest⟩ := h.computed generate waiting unsupplied default
    ⟨before, raw, v, schema.trans agree.1, rest⟩

theorem SecondPass.finishes {earlier : List String} {slots : List Slot}
    (h : SecondPass VL here earlier d slots d') (distinct : (slots.map Slot.name).Nodup) :
    ∀ slot ∈ slots, Finishes VL here d d' slot := by
  induction h with
  | done => simp
  | @waited earlier d d' slot rest raw v mark waiting taken next ih =>
    obtain ⟨apart, distinct⟩ := List.nodup_cons.mp distinct
    refine List.forall_mem_cons.mpr ⟨?_, fun s hs => (ih distinct s hs).of_agree
      (agree_set (ne_of_mem_of_not_mem (List.mem_map_of_mem (f := Slot.name) hs) apart))⟩
    obtain ⟨-, value, marked⟩ := next.agree apart
    rw [Slot.name, Draft.get?_set, if_pos rfl] at value
    rw [Slot.name, Draft.isDefaulted_set, if_pos rfl] at marked
    refine ⟨fun settled => ?_, fun raw' mark' same => ?_, fun _ none => ?_⟩
    · cases waiting.symm.trans settled.1
    · cases waiting.symm.trans same
      exact ⟨d, v, rfl, taken, value, marked⟩
    · cases waiting.symm.trans none
  | @computed earlier d d' slot rest raw v generate waiting unsupplied default made taken next ih =>
    obtain ⟨apart, distinct⟩ := List.nodup_cons.mp distinct
    refine List.forall_mem_cons.mpr ⟨?_, fun s hs => (ih distinct s hs).of_agree
      (agree_set (ne_of_mem_of_not_mem (List.mem_map_of_mem (f := Slot.name) hs) apart))⟩
    obtain ⟨-, value, marked⟩ := next.agree apart
    rw [Slot.name, Draft.get?_set, if_pos rfl] at value
    rw [Slot.name, Draft.isDefaulted_set, if_pos rfl] at marked
    refine ⟨fun settled => ?_, fun raw' mark' same => ?_, fun _ _ _ _ => ?_⟩
    · rcases settled.2 with supplied | never
      · cases unsupplied.symm.trans supplied
      · exact absurd default (never generate)
    · cases waiting.symm.trans same
    · exact ⟨d, raw, v, rfl, taken, value, marked⟩
  | @settled earlier d d' slot rest settled next ih =>
    obtain ⟨apart, distinct⟩ := List.nodup_cons.mp distinct
    refine List.forall_mem_cons.mpr ⟨?_, ih distinct⟩
    refine ⟨fun _ => next.agree apart, fun raw mark same => ?_, fun generate _ unsupplied default => ?_⟩
    · cases settled.1.symm.trans same
    · rcases settled.2 with supplied | never
      · cases unsupplied.symm.trans supplied
      · exact absurd default (never generate)

/-- A draft at its end holds a field or lacks one that was neither supplied nor has a default. -/
def Ends (VL : ValueLaw) (here : Setting) (d : Draft) (slot : Slot) : Prop :=
  Holds VL here d slot.spec ∨
    Lacks d slot.spec ∧ slot.supplied = false ∧ slot.spec.info.default? = none

/-- Every field ends somewhere after the second pass. -/
theorem SecondPass.ends {earlier : List String} {slots : List Slot}
    (h : SecondPass VL here earlier d slots d') (distinct : (slots.map Slot.name).Nodup)
    (stands : ∀ slot ∈ slots, Stands VL here d slot) : ∀ slot ∈ slots, Ends VL here d' slot := by
  intro slot hslot
  have finishes := h.finishes distinct slot hslot
  cases stands slot hslot with
  | @waits raw mark waiting marked lacks =>
    obtain ⟨before, v, schema, taken, value, mark'⟩ := finishes.waited raw mark waiting
    exact .inl ⟨raw, v, before, schema.trans h.schema_eq.symm, taken, value,
      fun defaulted => marked (mark' ▸ defaulted)⟩
  | left waiting unsupplied default lacks =>
    rcases default with none | ⟨generate, computed⟩
    · have settled : slot.Settled := ⟨waiting, .inr fun _ => by simp [none]⟩
      exact .inr ⟨lacks.of_agree (finishes.settled settled), unsupplied, none⟩
    · obtain ⟨before, raw, v, schema, taken, value, -⟩ :=
        finishes.computed generate waiting unsupplied computed
      exact .inl ⟨raw, v, before, schema.trans h.schema_eq.symm, taken, value,
        fun _ => by simp [computed]⟩
  | held settled holds => exact .inl (holds.of_agree (finishes.settled settled))

/-- A schema's field in the draft of an accepted node. -/
def Kept (VL : ValueLaw) (here : Setting) (d : Draft) (spec : FieldSpec) : Prop :=
  Holds VL here d spec ∨
    Lacks d spec ∧ spec.info.required = false ∧ spec.info.default? = none

/-- An accepted node comes from a draft that keeps all of the schema's fields. -/
theorem FieldsAccept.draft {rules : Rules} {schema : Schema} {n : Node}
    (h : FieldsAccept rules VL schema record here n) (distinct : schema.fieldNames.Nodup) :
    ∃ last : Draft, n = last.finish schema.fieldNames schema.choiceType schema.compactable ∧
      last.schema = schema.name ∧
      NodePasses schema (last.snapshot schema.fieldNames) here ∧
      ∀ spec ∈ schema.fields, Kept VL here last spec := by
  obtain ⟨type, keys, explicit, nested, complete, passes⟩ := h
  rename_i slots first last
  refine ⟨last, rfl, nested.schema_eq.trans explicit.schema_eq, passes, fun spec hspec => ?_⟩
  have names : slots.map Slot.name = schema.fieldNames := by
    rw [Schema.fieldNames, ← explicit.specs_eq, List.map_map]
    rfl
  have stands := explicit.stands distinct fun s _ => ⟨rfl, rfl⟩
  rw [← explicit.specs_eq] at hspec
  obtain ⟨slot, hslot, rfl⟩ := List.mem_map.mp hspec
  rcases nested.ends (names ▸ distinct) stands slot hslot with holds | ⟨lacks, unsupplied, default⟩
  · exact .inl holds
  · refine .inr ⟨lacks, Bool.eq_false_iff.mpr fun required => ?_, default⟩
    cases unsupplied.symm.trans (complete slot hslot required default)

end Validation

end ShapedTree
