import ShapedTree.Proofs.Validation.Drafts
import ShapedTree.Proofs.Value.Copy

namespace ShapedTree

/-- A view that does not show the marks of defaults of the nodes below. -/
def NodeView.unmarked (v : NodeView) : NodeView :=
  ⟨v.schema, Value.remarkEntries (fun _ => []) v.values⟩

/-- A computed default does not see the marks of defaults. -/
def FieldSpec.BlindDefault (s : FieldSpec) : Prop :=
  ∀ generate, s.info.default? = some (.computed generate) →
    ∀ (stack : List NodeView) (es : Entries Value) (kwargs : Kwargs) (field : String),
      generate ⟨stack.map NodeView.unmarked, .ofList (Value.remarkEntries (fun _ => []) es), kwargs,
        field⟩ = generate ⟨stack, .ofList es, kwargs, field⟩

theorem FieldSpec.BlindDefault.same {s : FieldSpec} (blind : s.BlindDefault) {generate : Generator}
    (default : s.info.default? = some (.computed generate)) {stack stack' : List NodeView}
    {es es' : Entries Value} (kwargs : Kwargs) (field : String)
    (above : stack'.map NodeView.unmarked = stack.map NodeView.unmarked)
    (siblings : Value.remarkEntries (fun _ => []) es' = Value.remarkEntries (fun _ => []) es) :
    generate ⟨stack', .ofList es', kwargs, field⟩ =
      generate ⟨stack, .ofList es, kwargs, field⟩ := by
  rw [← blind generate default stack', above, siblings, blind generate default]

/-- The check of a schema's nodes does not see the marks of defaults. -/
def Schema.BlindMarks (s : Schema) : Prop :=
  ∀ check, s.info.validator = some check →
    ∀ (stack : List NodeView) (es : Entries Value) (kwargs : Kwargs),
      check ⟨.ofList (Value.remarkEntries (fun _ => []) es), stack.map NodeView.unmarked, kwargs⟩ =
        check ⟨.ofList es, stack, kwargs⟩

theorem Schema.BlindMarks.same {s : Schema} (blind : s.BlindMarks) {check : NodeCheck}
    (declared : s.info.validator = some check) {stack stack' : List NodeView}
    {es es' : Entries Value} (kwargs : Kwargs)
    (above : stack'.map NodeView.unmarked = stack.map NodeView.unmarked)
    (values : Value.remarkEntries (fun _ => []) es' = Value.remarkEntries (fun _ => []) es) :
    check ⟨.ofList es', stack', kwargs⟩ = check ⟨.ofList es, stack, kwargs⟩ := by
  rw [← blind check declared stack', above, values, blind check declared]

namespace Draft

/-- A draft without the marks of the nodes that it holds; its own marks stay. -/
def unmarked (d : Draft) : Draft := { d with values := Value.remarkEntries (fun _ => []) d.values }

variable {d d' : Draft} {fields : List String}

theorem unmarked_set (d : Draft) (f : String) (v : Value) (mark : Bool) :
    (d.set f v mark).unmarked = d.unmarked.set f (v.remark fun _ => []) mark := by
  simp only [unmarked, set, Value.remarkEntries_eq_map,
    Entries.put_map (Value.remark fun _ => [])]
  rfl

theorem value?_unmarked (d : Draft) (f : String) :
    d.unmarked.value? f = (d.value? f).map (Value.remark fun _ => []) := by
  have held : d.unmarked.get? f = (d.get? f).map (Value.remark fun _ => []) := by
    simp only [unmarked, get?, Value.remarkEntries_eq_map]
    exact Entries.lookup_map (fun _ => Value.remark fun _ => []) f
  unfold value?
  rw [held]
  cases d.get? f with
  | none => rfl
  | some v =>
    simp only [Option.map_some, Value.isUndefined_remark]
    split <;> rfl

theorem entries_unmarked (d : Draft) (fields : List String) :
    d.unmarked.entries fields = Value.remarkEntries (fun _ => []) (d.entries fields) := by
  rw [Value.remarkEntries_eq_map, entries, entries, List.map_filterMap]
  refine List.filterMap_congr fun f _ => ?_
  rw [value?_unmarked, Option.map_map, Option.map_map]
  rfl

theorem entries_of_unmarked (h : d'.unmarked = d.unmarked) (fields : List String) :
    Value.remarkEntries (fun _ => []) (d'.entries fields) =
      Value.remarkEntries (fun _ => []) (d.entries fields) := by
  rw [← entries_unmarked, ← entries_unmarked, h]

theorem view_of_unmarked (h : d'.unmarked = d.unmarked) :
    d'.view.unmarked = d.view.unmarked :=
  congrArg view h

theorem finish_of_unmarked (h : d'.unmarked = d.unmarked) (fields : List String)
    (choiceType : Option String) (compactable : List String) :
    (d'.finish fields choiceType compactable).unmarked =
      (d.finish fields choiceType compactable).unmarked := by
  have values : ∀ d : Draft, Value.remarkEntries (fun _ => []) (Entries.ofList (d.entries fields)) =
      Entries.ofList (Value.remarkEntries (fun _ => []) (d.entries fields)) := fun d => by
    rw [Value.remarkEntries_eq_map, Value.remarkEntries_eq_map, Entries.ofList_map]
  have schema : d'.unmarked.schema = d.unmarked.schema := congrArg Draft.schema h
  have schema : d'.schema = d.schema := schema
  simp only [finish, NodeOf.make, Node.unmarked, Node.remark, values, schema,
    entries_of_unmarked h fields]

end Draft

namespace Validation

variable {c : KindCatalog} {A B : ValueLaw} {record record' : Entries Value} {here : Setting}
  {name : String} {like : FieldSpec → Value → Value → Prop} {d d' last : Draft}

/-- A field may start from other raw values: they wait alike, and what is accepted for the first one
is accepted for the second one up to marks. -/
structure Exchanges (c : KindCatalog) (A B : ValueLaw) (here : Setting) (name : String)
    (like : FieldSpec → Value → Value → Prop) (spec : FieldSpec) : Prop where
  refl : ∀ raw, like spec raw raw
  waits : ∀ {raw raw'}, like spec raw raw' → (Waits c spec raw' ↔ Waits c spec raw)
  taken : ∀ {raw raw' v} {view view' : NodeView}, like spec raw raw' → view.schema = name →
    view'.unmarked = view.unmarked → A spec raw (here.under view) v →
    ∃ v', B spec raw' (here.under view') v' ∧ v'.remark (fun _ => []) = v.remark fun _ => []
  blind : spec.BlindDefault

theorem Exchanges.fills {spec : FieldSpec} (h : Exchanges c A B here name like spec)
    {raw raw' v : Value} (exchanged : like spec raw raw') (schema : d.schema = name)
    (same : d'.unmarked = d.unmarked) (taken : A spec raw (here.under d.view) v) (mark : Bool) :
    ∃ v', B spec raw' (here.under d'.view) v' ∧
      (d'.set spec.name v' mark).unmarked = (d.set spec.name v mark).unmarked := by
  obtain ⟨v', taken', marks⟩ := h.taken exchanged schema (Draft.view_of_unmarked same) taken
  refine ⟨v', taken', ?_⟩
  rw [Draft.unmarked_set, Draft.unmarked_set, same, marks]

/-- A field starts from nothing, or from related raw values with one mark. -/
def Restarts (like : Value → Value → Prop) : Option (Value × Bool) → Option (Value × Bool) → Prop :=
  Option.Rel fun a b => like a.1 b.1 ∧ a.2 = b.2

theorem Restarts.of_none {R : Value → Value → Prop} {start : Option (Value × Bool)}
    (h : Restarts R none start) : start = none := by
  cases h
  rfl

theorem Restarts.of_some {R : Value → Value → Prop} {raw : Value} {mark : Bool}
    {start : Option (Value × Bool)} (h : Restarts R (some (raw, mark)) start) :
    ∃ raw', start = some (raw', mark) ∧ R raw raw' := by
  cases h with
  | @some _ restart related =>
    obtain ⟨raw', mark'⟩ := restart
    obtain ⟨same, rfl⟩ := related
    exact ⟨raw', rfl, same⟩

/-- The same field in another draft, which waits for another raw value. -/
structure Slot.Exchanged (like : FieldSpec → Value → Value → Prop) (slot slot' : Slot) : Prop where
  spec : slot'.spec = slot.spec
  supplied : slot'.supplied = slot.supplied
  waiting : Restarts (like slot.spec) slot.waiting slot'.waiting

theorem Starts.exchange {spec : FieldSpec} {start : Option (Value × Bool)}
    (h : Starts record spec start) (refl : ∀ raw, like spec raw raw)
    (reads : Option.Rel (like spec) (readKey record spec.name) (readKey record' spec.name)) :
    ∃ start', Starts record' spec start' ∧ Restarts (like spec) start start' := by
  generalize given' : readKey record' spec.name = other at reads
  cases h with
  | supplied given =>
    rw [given] at reads
    cases reads with
    | some exchanged => exact ⟨_, .supplied given', .some ⟨exchanged, rfl⟩⟩
  | @produced d raw left default made =>
    rw [left] at reads
    cases reads
    exact ⟨_, .produced given' default made, .some ⟨refl raw, rfl⟩⟩
  | computed left default =>
    rw [left] at reads
    cases reads
    exact ⟨_, .computed given' default, .none⟩
  | absent left default =>
    rw [left] at reads
    cases reads
    exact ⟨_, .absent given' default, .none⟩

/-- The first pass from other raw values fills the same draft up to marks. -/
theorem FirstPass.exchange {specs : List FieldSpec} {slots : List Slot}
    (h : FirstPass c A record here d specs slots last)
    (exchanges : ∀ spec ∈ specs, Exchanges c A B here name like spec)
    (reads : ∀ spec ∈ specs,
      Option.Rel (like spec) (readKey record spec.name) (readKey record' spec.name))
    (schema : d.schema = name) (same : d'.unmarked = d.unmarked) :
    ∃ slots' last', FirstPass c B record' here d' specs slots' last' ∧
      last'.unmarked = last.unmarked ∧ List.Forall₂ (Slot.Exchanged like) slots slots' := by
  induction h generalizing d' with
  | done => exact ⟨[], d', .done d', same, .nil⟩
  | absent start next ih =>
    obtain ⟨first, others⟩ := List.forall_mem_cons.mp exchanges
    obtain ⟨read, readings⟩ := List.forall_mem_cons.mp reads
    obtain ⟨_, started, related⟩ := start.exchange first.refl read
    obtain rfl := related.of_none
    obtain ⟨slots', last', pass, same, exchanged⟩ := ih others readings schema same
    exact ⟨_, last', .absent started pass, same, .cons ⟨rfl, rfl, .none⟩ exchanged⟩
  | waits start waits next ih =>
    obtain ⟨first, others⟩ := List.forall_mem_cons.mp exchanges
    obtain ⟨read, readings⟩ := List.forall_mem_cons.mp reads
    obtain ⟨_, started, related⟩ := start.exchange first.refl read
    obtain ⟨raw', rfl, swapped⟩ := related.of_some
    obtain ⟨slots', last', pass, same, exchanged⟩ := ih others readings schema same
    exact ⟨_, last', .waits started ((first.waits swapped).mpr waits) pass, same,
      .cons ⟨rfl, rfl, .some ⟨swapped, rfl⟩⟩ exchanged⟩
  | fills start ready taken next ih =>
    obtain ⟨first, others⟩ := List.forall_mem_cons.mp exchanges
    obtain ⟨read, readings⟩ := List.forall_mem_cons.mp reads
    obtain ⟨_, started, related⟩ := start.exchange first.refl read
    obtain ⟨raw', rfl, swapped⟩ := related.of_some
    obtain ⟨v', taken', filled⟩ := first.fills swapped schema same taken _
    obtain ⟨slots', last', pass, same, exchanged⟩ := ih others readings schema filled
    exact ⟨_, last', .fills started ((first.waits swapped).not.mpr ready) taken' pass, same,
      .cons ⟨rfl, rfl, .none⟩ exchanged⟩

/-- The second pass over such slots fills the same draft up to marks. -/
theorem SecondPass.exchange {earlier : List String} {slots slots' : List Slot}
    (h : SecondPass A here earlier d slots last)
    (exchanged : List.Forall₂ (Slot.Exchanged like) slots slots')
    (exchanges : ∀ slot ∈ slots, Exchanges c A B here name like slot.spec)
    (schema : d.schema = name) (same : d'.unmarked = d.unmarked) :
    ∃ last', SecondPass B here earlier d' slots' last' ∧ last'.unmarked = last.unmarked := by
  induction h generalizing d' slots' with
  | done earlier =>
    cases exchanged
    exact ⟨d', .done earlier d', same⟩
  | waited waiting taken next ih =>
    obtain ⟨first, others⟩ := List.forall_mem_cons.mp exchanges
    cases exchanged with
    | cons alike exchanged =>
      obtain ⟨spec, -, related⟩ := alike
      rw [waiting] at related
      obtain ⟨raw', waiting', swapped⟩ := related.of_some
      obtain ⟨v', taken', filled⟩ := first.fills swapped schema same taken _
      obtain ⟨last', pass, same⟩ := ih exchanged others schema filled
      rw [← spec] at taken' pass
      exact ⟨last', .waited waiting' taken' pass, same⟩
  | computed waiting unsupplied default made taken next ih =>
    obtain ⟨first, others⟩ := List.forall_mem_cons.mp exchanges
    cases exchanged with
    | cons alike exchanged =>
      obtain ⟨spec, supplied, related⟩ := alike
      rw [waiting] at related
      -- The generator sees the same entries, because it sees no marks.
      have made' := (first.blind.same default here.kwargs _ rfl
        (Draft.entries_of_unmarked same _)).trans made
      obtain ⟨v', taken', filled⟩ := first.fills (first.refl _) schema same taken true
      obtain ⟨last', pass, same⟩ := ih exchanged others schema filled
      rw [← spec] at default made' taken' pass
      exact ⟨last', .computed related.of_none (supplied.trans unsupplied) default made' taken' pass,
        same⟩
  | settled settled next ih =>
    obtain ⟨-, others⟩ := List.forall_mem_cons.mp exchanges
    cases exchanged with
    | cons alike exchanged =>
      obtain ⟨spec, supplied, related⟩ := alike
      rw [settled.1] at related
      obtain ⟨last', pass, same⟩ := ih exchanged others schema same
      rw [← spec] at pass
      refine ⟨last', .settled ⟨related.of_none, ?_⟩ pass, same⟩
      rw [supplied, spec]
      exact settled.2

/-- A record with other raw values is accepted as the same node up to marks. -/
theorem FieldsAccept.exchange {rules : Rules} {schema : Schema} {n : Node}
    (h : FieldsAccept rules A schema record here n)
    (exchanges : ∀ spec ∈ schema.fields,
      Exchanges rules.registry.kinds A B here schema.name like spec)
    (reads : ∀ spec ∈ schema.fields,
      Option.Rel (like spec) (readKey record spec.name) (readKey record' spec.name))
    (type : TypeFits schema record') (keys : KeysFit rules schema record')
    (blind : schema.BlindMarks) :
    ∃ n', FieldsAccept rules B schema record' here n' ∧ n'.unmarked = n.unmarked := by
  obtain ⟨-, -, explicit, nested, complete, passes⟩ := h
  obtain ⟨slots', first', explicit', same, exchanged⟩ :=
    explicit.exchange exchanges reads rfl
      (show ({ schema := schema.name } : Draft).unmarked = Draft.unmarked _ from rfl)
  obtain ⟨last', nested', same⟩ := nested.exchange exchanged
    (fun slot hslot => exchanges _ (explicit.specs_eq ▸ List.mem_map_of_mem hslot))
    explicit.schema_eq same
  refine ⟨_, .intro type keys explicit' nested' (fun slot' hslot' required default => ?_)
    (fun check declared => ?_), Draft.finish_of_unmarked same _ _ _⟩
  · obtain ⟨slot, hslot, alike⟩ := exists_left_of_mem exchanged slot' hslot'
    rw [alike.supplied]
    rw [alike.spec] at required default
    exact complete slot hslot required default
  · exact (blind.same declared _ rfl (Draft.entries_of_unmarked same _)).trans
      (passes check declared)

end Validation

end ShapedTree
