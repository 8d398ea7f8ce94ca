import ShapedTree.Ancestors
import ShapedTree.Proofs.Validation.Exchange
import ShapedTree.Proofs.Validation.Idempotence
import ShapedTree.Proofs.Validation.Independence
import ShapedTree.Proofs.Validation.Omission
import ShapedTree.Proofs.Validation.Supply

namespace ShapedTree

/-- A shortform that stands for a field: what the field accepts is written out under its name. -/
structure Schema.ShortFor (s : Schema) (f : FieldSpec) : Prop where
  declared : f ∈ s.fields
  short : ∃ short, s.info.shortform = some short ∧ short.field = f ∧
    ∀ v, short.expand v = .ok [(f.name, v.serialize .none)]

/-- A field whose values come back when they are written out and handed in again. It refers to the
given schemas only; primitive forms keep primitives, and checks do not see more than they may. -/
structure FieldSpec.Reproducible (r : Registry) (schemas : String → Prop) (f : FieldSpec) :
    Prop where
  refers : f.Every (FieldSpec.Confined r schemas)
  parts : f.Every fun s => s.PrimitiveForms ∧ s.Blind
  fields : ∀ {name : String} {s : Schema}, schemas name → r.find? name = some s →
    ∀ spec ∈ s.allFields, spec.Every fun s => s.PrimitiveForms ∧ s.Blind
  nodes : ∀ {name : String} {s : Schema}, schemas name → r.find? name = some s → s.Blind

/-- Where nothing sees the marks of defaults, ancestors that differ in them alone are all one. -/
def Registry.markless {r : Registry} (builtin : r.Every (FieldSpec.Builtin r.kinds))
    (defaults : r.Every FieldSpec.BlindDefault) (checks : ∀ s ∈ r.schemas, s.BlindMarks) :
    Indifference r where
  schemas _ := True
  alike a b := b.map NodeView.unmarked = a.map NodeView.unmarked
  push view same := by rw [List.map_append, List.map_append, same]
  confined := r.confined_of_builtin builtin
  generator _ found _ declared _ default _ _ _ kwargs field same :=
    (defaults.field found declared).self.same default kwargs field same rfl
  check _ found _ declared _ _ _ kwargs same :=
    (checks _ (List.mem_of_find?_eq_some found)).same declared kwargs same rfl

namespace Validation

/-- The check of values where so many levels are left. -/
abbrev valuesAt (rules : Rules) (levels : Nat) : ValueRun :=
  checkValue rules (checkNodeAt rules levels) questionLimit

/-- What is said of values that come back when they are written out. -/
abbrev Recurs (rules : Rules) (levels : Nat) : ValueLaw :=
  ValueReturns rules.registry rules.maxDepth .complete (valuesAt rules levels)
    (valuesAt rules levels)

variable {rules : Rules} {levels : Nat} {here : Setting}

theorem Sure.unique {value : ValueRun} {spec : FieldSpec} {raw v v' : Value}
    (h : Sure value spec raw here v) (h' : Sure value spec raw here v') : v' = v :=
  Option.some.inj ((h []).unique (h' []))

theorem sure_restacked (I : Indifference rules.registry) {spec : FieldSpec}
    (confined : spec.Every (FieldSpec.Confined rules.registry I.schemas)) {stack : List NodeView}
    (alike : I.alike here.stack stack) {raw v : Value} :
    Sure (valuesAt rules levels) spec raw { here with stack } v ↔
      Sure (valuesAt rules levels) spec raw here v := by
  have same : ∀ path, valuesAt rules levels spec raw (Setting.place { here with stack } path) =
      valuesAt rules levels spec raw (here.place path) := fun path =>
    checkValue_restacked levels spec confined raw (here.place path) stack alike
  unfold Sure
  simp only [same]

/-- Every field starts from the same raw value, but one of them may start from another. -/
def Swapped (f : FieldSpec) (x y : Value) (spec : FieldSpec) (raw raw' : Value) : Prop :=
  raw' = raw ∨ spec = f ∧ raw = x ∧ raw' = y

theorem readKey_single {key : String} {v : Value} (defined : v.isUndefined = false) :
    readKey [(key, v)] key = some v := by
  simp [readKey, defined]

theorem readKey_other {key other : String} {v : Value} (h : other ≠ key) :
    readKey [(key, v)] other = none := by
  have apart : (other == key) = false := beq_eq_false_iff_ne.mpr h
  simp [readKey, List.lookup_cons, apart]

theorem reads_swapped {schema : Schema} {f : FieldSpec} {x y : Value}
    (distinct : schema.fieldNames.Nodup) (declared : f ∈ schema.fields)
    (x_defined : x.isUndefined = false) (y_defined : y.isUndefined = false) :
    ∀ spec ∈ schema.fields, Option.Rel (Swapped f x y spec) (readKey [(f.name, x)] spec.name)
      (readKey [(f.name, y)] spec.name) := by
  intro spec hspec
  by_cases same : spec.name = f.name
  · obtain rfl := List.inj_on_of_nodup_map distinct hspec declared same
    rw [readKey_single x_defined, readKey_single y_defined]
    exact .some (.inr ⟨rfl, rfl, rfl⟩)
  · rw [readKey_other same, readKey_other same]
    exact .none

/-- A schema with a shortform that stands for a field, and what makes the shortform mere notation at
a setting. -/
structure Shorthand (rules : Rules) (I : Indifference rules.registry) (schema : Schema)
    (f : FieldSpec) (here : Setting) : Prop where
  coherent : rules.registry.Coherent
  reserves : rules.registry.ReservesType
  regular : rules.registry.Every (FieldSpec.Regular rules.registry.kinds)
  steady : rules.registry.Every FieldSpec.PureDefault
  defaults : rules.registry.Every FieldSpec.BlindDefault
  checks : ∀ s ∈ rules.registry.schemas, s.BlindMarks
  found : rules.registry.find? schema.name = some schema
  short : schema.ShortFor f
  reproducible : f.Reproducible rules.registry I.schemas
  overlooks : ∀ view : NodeView, view.schema = schema.name →
    I.alike here.stack (here.stack ++ [view])

namespace Shorthand

variable {I : Indifference rules.registry} {schema : Schema} {f : FieldSpec} {raw v : Value}
  {n : Node}

theorem plain (h : Shorthand rules I schema f here) :
    rules.registry.Every (FieldSpec.Memoryless rules.registry.kinds) := fun s hs top ht part hp =>
  have regular := h.regular s hs top ht part hp
  ⟨regular.builtin, regular.fixed, h.steady s hs top ht part hp⟩

theorem registered (h : Shorthand rules I schema f here) : schema ∈ rules.registry.schemas :=
  List.mem_of_find?_eq_some h.found

theorem sure (h : Shorthand rules I schema f here) {spec : FieldSpec}
    (hspec : spec ∈ schema.allFields) {there : Setting}
    (ran : ∃ path, Run.Accepted (valuesAt rules levels spec raw (there.place path)) (some v)) :
    Sure (valuesAt rules levels) spec raw there v :=
  sure_of_ran h.plain levels questionLimit (h.plain schema h.registered spec hspec) ran

/-- The node around the field does not matter to it. -/
theorem sure_under (h : Shorthand rules I schema f here) {view : NodeView}
    (named : view.schema = schema.name) :
    Sure (valuesAt rules levels) f raw (here.under view) v ↔
      Sure (valuesAt rules levels) f raw here v :=
  sure_restacked I h.reproducible.refers (h.overlooks view named)

/-- Neither do marks of defaults on the nodes that it holds matter to any field. -/
theorem sure_of_unmarked (h : Shorthand rules I schema f here) {spec : FieldSpec}
    (hspec : spec ∈ schema.fields) {view view' : NodeView} (same : view'.unmarked = view.unmarked)
    (taken : Sure (valuesAt rules levels) spec raw (here.under view) v) :
    Sure (valuesAt rules levels) spec raw (here.under view') v := by
  let J := Registry.markless (h.regular.mono fun _ regular => regular.builtin) h.defaults h.checks
  have confined := J.confined trivial h.found spec (List.mem_append_left _ hspec)
  have alike : J.alike (here.under view).stack (here.stack ++ [view']) := by
    show (here.stack ++ [view']).map _ = (here.stack ++ [view]).map _
    rw [List.map_append, List.map_append, List.map_singleton, List.map_singleton, same]
  exact (sure_restacked J confined alike).mpr taken

/-- What is said of the values of the schema's fields; those of the one field come back. -/
def Taken (rules : Rules) (levels : Nat) (f : FieldSpec) : ValueLaw := fun spec raw there v =>
  Sure (valuesAt rules levels) spec raw there v ∧ (spec = f → Recurs rules levels f raw there v)

theorem recurs (h : Shorthand rules I schema f here) (raw : Value) (place : Place) :
    Run.Ensures (valuesAt rules levels f raw place)
      (Run.Answers (Recurs rules levels f raw place.setting)) := by
  have faithful : ∀ {top : FieldSpec}, top.Every (FieldSpec.Regular rules.registry.kinds) →
      top.Every (fun s => s.PrimitiveForms ∧ s.Blind) →
      top.Every (FieldSpec.Confined rules.registry I.schemas) → top.Every fun s =>
        s.Faithful rules.registry.kinds Echo.complete.marks ∧
          s.Confined rules.registry I.schemas :=
    fun regular form confined part hpart =>
      ⟨⟨regular part hpart, (form part hpart).1, (form part hpart).2⟩, confined part hpart⟩
  have nodes := checkNodeAt_returns_of_seen (e := .complete) (u := rules.unknownFields)
    (m := rules.errors) h.coherent h.reserves h.regular
    (fun seen found spec hspec => faithful
      (h.regular _ (List.mem_of_find?_eq_some found) spec hspec)
      (h.reproducible.fields seen found spec hspec) (I.confined seen found spec hspec))
    (fun levels _ s seen found =>
      schemaReturns_complete h.coherent h.reserves (h.reproducible.nodes seen found)) levels
  exact checkValue_returns_of_nodes (e := .complete) (u := rules.unknownFields)
    (m := rules.errors) h.coherent h.reserves h.regular nodes
    (faithful (h.regular.field h.found h.short.declared) h.reproducible.parts
      h.reproducible.refers) raw place

/-- A node of the schema that a run accepts is accepted with such values. -/
theorem accepts (h : Shorthand rules I schema f here) (raw : Value) (place : Place) :
    Run.Ensures (checkNodeAt rules (levels + 1) raw schema.name place)
      (Run.Answers (NodeAccepts rules (Taken rules levels f) raw schema.name place.setting)) := by
  refine checkNodeWith_ensures_of_fields (fun s found spec hspec raw place => ?_) raw place
  cases h.found.symm.trans found
  by_cases same : spec = f
  · subst same
    refine (h.recurs raw place).mono fun _ answer => answer.mono fun v recurs => ?_
    exact ⟨h.sure hspec recurs.ran, fun _ => recurs⟩
  · have conforms := checkValue_conforms h.coherent
      (checkNodeAt_conforms h.coherent h.regular levels) (h.regular schema h.registered spec hspec)
      raw place
    refine (conforms.and conforms.accepted).mono ?_
    rintro _ ⟨⟨v, rfl, -⟩, run⟩
    exact ⟨v, rfl, h.sure hspec ⟨place.path, run⟩, fun only => absurd only same⟩

/-- What the field comes to in front of the node and in it, and its output in the node. -/
structure Stands (rules : Rules) (levels : Nat) (schema : Schema) (f : FieldSpec) (here : Setting)
    (raw v : Value) : Prop where
  outside : Sure (valuesAt rules levels) f raw here v
  inside : ∀ view : NodeView, view.schema = schema.name →
    Sure (valuesAt rules levels) f raw (here.under view) v
  output : ∀ view : NodeView, view.schema = schema.name →
    Sure (valuesAt rules levels) f (v.serialize .none) (here.under view) (v.remark fun _ => [])
  waits : Waits rules.registry.kinds f (v.serialize .none) ↔ Waits rules.registry.kinds f raw
  defined : (v.serialize .none).isUndefined = false

theorem stands_of_outside (h : Shorthand rules I schema f here)
    (taken : Recurs rules levels f raw here v) : Stands rules levels schema f here raw v := by
  have outside := h.sure (List.mem_append_left _ h.short.declared) taken.ran
  refine ⟨outside, fun _ named => (h.sure_under named).mpr outside, fun _ named => ?_, taken.waits,
    by rw [Value.isUndefined_serialize, taken.conforms.defined]⟩
  exact (h.sure_under named).mpr (taken.again here rfl)

theorem stands_of_inside (h : Shorthand rules I schema f here) {view : NodeView}
    (named : view.schema = schema.name) (taken : Recurs rules levels f raw (here.under view) v) :
    Stands rules levels schema f here raw v := by
  have outside : Sure (valuesAt rules levels) f raw here v :=
    (h.sure_under named).mp (h.sure (List.mem_append_left _ h.short.declared) taken.ran)
  refine ⟨outside, fun _ named => (h.sure_under named).mpr outside, fun view' named' => ?_,
    taken.waits, by rw [Value.isUndefined_serialize, taken.conforms.defined]⟩
  -- The output comes back under a node of the same name only, which is where it is handed in.
  refine taken.again (here.under view') ?_
  show (here.under view').lineage = (here.under view).lineage
  rw [Setting.lineage_under, Setting.lineage_under, named, named']

/-- The record of the field is accepted with another raw value of it that comes to the same up to
marks. -/
theorem exchange (h : Shorthand rules I schema f here) {x y : Value}
    (x_defined : x.isUndefined = false) (y_defined : y.isUndefined = false)
    (waits : Waits rules.registry.kinds f y ↔ Waits rules.registry.kinds f x)
    (swap : ∀ (view : NodeView) (u : Value), view.schema = schema.name →
      Sure (valuesAt rules levels) f x (here.under view) u → ∃ u',
        u'.remark (fun _ => []) = u.remark (fun _ => []) ∧ ∀ view' : NodeView,
          view'.schema = schema.name → Sure (valuesAt rules levels) f y (here.under view') u')
    (accepted : FieldsAccept rules (Taken rules levels f) schema [(f.name, x)] here n) :
    ∃ n', FieldsAccept rules (Sure (valuesAt rules levels)) schema [(f.name, y)] here n' ∧
      n'.unmarked = n.unmarked := by
  have distinct : schema.fieldNames.Nodup := h.coherent.fields schema h.registered
  have named : f.name ∈ schema.fieldNames := List.mem_map_of_mem h.short.declared
  have reads := reads_swapped distinct h.short.declared x_defined y_defined
  refine accepted.exchange (fun spec hspec => ?_) reads ?_ ?_ (h.checks schema h.registered)
  · -- A field that starts as before comes to the same; the one that does not is given by `swap`.
    refine ⟨fun _ => .inl rfl, ?_, ?_, (h.defaults.field h.found hspec).self⟩
    · rintro raw raw' (rfl | ⟨rfl, rfl, rfl⟩)
      · exact Iff.rfl
      · exact waits
    · rintro raw raw' v view view' (rfl | ⟨rfl, rfl, rfl⟩) named same taken
      · exact ⟨v, h.sure_of_unmarked hspec same taken.1, rfl⟩
      · obtain ⟨v', marks, sure⟩ := swap view v named taken.1
        exact ⟨v', sure view' ((congrArg NodeView.schema same).trans named), marks⟩
  · intro membership type choice given
    have other : "type" ≠ f.name := fun same =>
      h.reserves schema h.registered (by simp [choice]) (same ▸ named)
    rw [readKey_other other] at given
    cases given
  · intro _ e he
    cases List.mem_singleton.mp he
    simp [acceptsKey, named]

/-- A record that is accepted as a node of the schema makes that node, as it is or expanded. -/
theorem sureNode (h : Shorthand rules I schema f here) {record : Entries Value}
    (shallow : rules.maxDepth.lt here.depth = false)
    (args : here.kwargs.missing (schema.info.requires.getD []) = [])
    (expands : Expands (Sure (valuesAt rules levels)) schema here raw record)
    (fields : FieldsAccept rules (Sure (valuesAt rules levels)) schema record here n) :
    SureNode (checkNodeAt rules (levels + 1)) raw schema.name here n :=
  checkNodeWith_certain h.found shallow args expands fields fun _ hspec _ =>
    (h.steady.field h.found hspec).self

/-- What the shortform is accepted as, the record of the field is accepted as up to marks. -/
theorem long_of_short (h : Shorthand rules I schema f here) (shape : raw.entries? = none)
    (defined : raw.isUndefined = false)
    (accepted : NodeAccepts rules (Taken rules levels f) raw schema.name here n) :
    ∃ n', SureNode (checkNodeAt rules (levels + 1)) (.record [(f.name, raw)] true) schema.name
      here n' ∧ n'.unmarked = n.unmarked := by
  obtain ⟨found, shallow, args, expands, fields⟩ := accepted
  cases h.found.symm.trans found
  obtain ⟨short, declared, same, expand⟩ := h.short.short
  cases expands with
  | record shape' => cases shape.symm.trans shape'
  | shortform _ declared' taken expanded =>
    cases declared.symm.trans declared'
    cases (expand _).symm.trans expanded
    have stands := h.stands_of_outside (taken.2 same)
    obtain ⟨n', fields', marks⟩ := h.exchange stands.defined defined stands.waits.symm
      (fun view u named sure => by
        obtain rfl := (stands.output view named).unique sure
        exact ⟨_, by rw [Value.remark_remark]; rfl, stands.inside⟩) fields
    exact ⟨n', h.sureNode shallow args (.record rfl) fields', marks⟩

/-- What the record of the field is accepted as, the shortform is accepted as up to marks. -/
theorem short_of_long (h : Shorthand rules I schema f here) (shape : raw.entries? = none)
    (defined : raw.isUndefined = false)
    (accepted : NodeAccepts rules (Taken rules levels f) (.record [(f.name, raw)] true)
      schema.name here n) :
    ∃ n', SureNode (checkNodeAt rules (levels + 1)) raw schema.name here n' ∧
      n'.unmarked = n.unmarked := by
  obtain ⟨found, shallow, args, expands, fields⟩ := accepted
  cases h.found.symm.trans found
  cases expands with
  | shortform shape' => cases shape'
  | record shape' =>
    cases shape'
    have distinct : schema.fieldNames.Nodup := h.coherent.fields schema h.registered
    obtain ⟨last, -, named, held⟩ := fields.sourced distinct
    rcases held f h.short.declared with ⟨_, v, before, schema_eq, ⟨taken, source⟩, -⟩ | ⟨-, left⟩
    · obtain rfl := source.eq_of_supplied (readKey_single defined)
      have stands := h.stands_of_inside (schema_eq.trans named) (taken.2 rfl)
      obtain ⟨n', fields', marks⟩ := h.exchange defined stands.defined stands.waits
        (fun view u named sure => by
          obtain rfl := (stands.inside view named).unique sure
          exact ⟨_, by rw [Value.remark_remark]; rfl, stands.output⟩) fields
      obtain ⟨short, declared, same, expand⟩ := h.short.short
      exact ⟨n', h.sureNode shallow args
        (.shortform shape declared (same ▸ stands.outside) (expand v)) fields', marks⟩
    · cases left.symm.trans (readKey_single defined)

end Shorthand

theorem valid_of_sureNode {r : Registry} {o : ValidateOptions} {raw : Value} {name : String}
    {n : Node} (frozen : r.frozen = true)
    (sure : SureNode (checkNodeAt (o.rules r) (Validation.levels o.maxDepth)) raw name
      o.root.setting n) (memory : Memory) :
    (r.validate memory raw name o).result = .ok (.valid n) :=
  have ⟨t, run, clean⟩ := sure [] { memory } rfl
  Registry.validate_eq_valid_iff.mpr ⟨frozen, t, run, clean⟩

theorem Shorthand.accepted {r : Registry} {o : ValidateOptions}
    {I : Indifference (o.rules r).registry} {schema : Schema} {f : FieldSpec}
    (h : Shorthand (o.rules r) I schema f o.root.setting) {memory : Memory} {raw : Value} {n : Node}
    (valid : (r.validate memory raw schema.name o).result = .ok (.valid n)) :
    NodeAccepts (o.rules r) (Shorthand.Taken (o.rules r) (Validation.levels o.maxDepth - 1) f) raw
      schema.name o.root.setting n := by
  obtain ⟨-, t, run, clean⟩ := Registry.validate_eq_valid_iff.mp valid
  unfold ValidateOptions.run at run
  rw [levels_pred] at run
  obtain ⟨m, same, accepted⟩ := (h.accepts raw o.root _ _ _ run).2 clean
  cases same
  exact accepted

end Validation

open Validation

/-- A shortform that stands for a field is only notation. As long as the field's values come back
when they are written out, no default and no check sees marks of defaults, and nothing below the
field looks at a node of the schema behind the given ancestors, a value that is no object is valid
exactly if the record of the field is, and is the same node up to marks. -/
theorem Registry.validate_shortform {r : Registry} (made : r.Made)
    (builtin : r.Every (FieldSpec.Builtin r.kinds)) (fixed : r.Every FieldSpec.FixedPattern)
    (steady : r.Every FieldSpec.PureDefault) (keys : r.Every FieldSpec.TextKeys)
    (reserves : r.ReservesType) (defaults : r.Every FieldSpec.BlindDefault)
    (checks : ∀ s ∈ r.schemas, s.BlindMarks) {o : ValidateOptions} {name : String}
    {schema : Schema} (found : r.find? name = some schema) {f : FieldSpec}
    (short : schema.ShortFor f) (I : Indifference r) (reproducible : f.Reproducible r I.schemas)
    (overlooks : ∀ view : NodeView, view.schema = name → I.alike o.stack (o.stack ++ [view]))
    {raw : Value} (shape : raw.entries? = none) (defined : raw.isUndefined = false)
    (memory memory' : Memory) :
    ((∃ n, (r.validate memory raw name o).result = .ok (.valid n)) ↔
      ∃ n, (r.validate memory' (.record [(f.name, raw)] true) name o).result = .ok (.valid n)) ∧
    ∀ n n', (r.validate memory raw name o).result = .ok (.valid n) →
      (r.validate memory' (.record [(f.name, raw)] true) name o).result = .ok (.valid n') →
      n'.unmarked = n.unmarked ∧ n'.serialize .none = n.serialize .none := by
  obtain rfl := Registry.name_of_find? found
  have h : Shorthand (o.rules r) I schema f o.root.setting := {
    coherent := made.coherent, reserves, steady, defaults, checks, found, short, reproducible
    overlooks
    regular := fun s hs top ht part hp =>
      ⟨builtin s hs top ht part hp, fixed s hs top ht part hp, keys s hs top ht part hp⟩ }
  have long : ∀ n, (r.validate memory raw schema.name o).result = .ok (.valid n) →
      ∃ n', (r.validate memory' (.record [(f.name, raw)] true) schema.name o).result =
        .ok (.valid n') ∧ n'.unmarked = n.unmarked := by
    intro n valid
    obtain ⟨n', sure, marks⟩ := h.long_of_short shape defined (h.accepted valid)
    rw [← levels_pred] at sure
    exact ⟨n', valid_of_sureNode (validate_eq_valid_iff.mp valid).1 sure memory', marks⟩
  refine ⟨⟨fun ⟨n, valid⟩ => ?_, fun ⟨n, valid⟩ => ?_⟩, fun n n' valid valid' => ?_⟩
  · obtain ⟨n', valid', -⟩ := long n valid
    exact ⟨n', valid'⟩
  · obtain ⟨n', sure, -⟩ := h.short_of_long shape defined (h.accepted valid)
    rw [← levels_pred] at sure
    exact ⟨n', valid_of_sureNode (validate_eq_valid_iff.mp valid).1 sure memory⟩
  · obtain ⟨m, valid'', marks⟩ := long n valid
    cases valid'.symm.trans valid''
    refine ⟨marks, ?_⟩
    calc n'.serialize .none = n'.unmarked.serialize .none := (n'.serialize_remark _).symm
      _ = n.unmarked.serialize .none := by rw [marks]
      _ = n.serialize .none := n.serialize_remark _

namespace Albums

def title : FieldSpec := .leaf { name := "title", kind := "string", required := false }

def plays : FieldSpec :=
  .leaf { name := "plays", kind := "integer", default? := some (.constant (.number 0)) }

def genre : FieldSpec := .leaf {
  name := "genre", kind := "string"
  default? := some (.computed (Generator.fromKwarg "genre" (.text "folk"))) }

def item : FieldSpec :=
  .leaf { name := "item", kind := "node", constraints := { target := some "track" } }

def tracks : FieldSpec := .list { name := "tracks", kind := "list" } item

def track : Schema where
  name := "track"
  fields := [title, plays, genre]

def album : Schema where
  name := "album"
  fields := [title, tracks]
  info := { shortform := some ⟨tracks, Shortform.intoField [] "tracks"⟩ }

/-- Albums that may be written as the list of their tracks. -/
def registry : Registry where
  kinds := .builtin
  schemas := [track, album]
  frozen := true

theorem registry_made : registry.Made := by
  have tracks := Registry.Made.schema (.empty .builtin) (show Registry.register? _ track.name
    (.specs track.fields) track.info = .ok (_, track) from rfl)
  have albums := Registry.Made.schema tracks (show Registry.register? _ album.name
    (.specs album.fields) album.info = .ok (_, album) from rfl)
  exact .frozen albums rfl rfl

theorem registry_every {P : FieldSpec → Prop} (scalars : P title ∧ P plays ∧ P genre)
    (nested : P tracks ∧ P item) : registry.Every P := by
  simp only [Registry.Every, FieldSpec.Every, registry, track, album, tracks, title, plays, genre,
    item, Schema.allFields, FieldSpec.walk, List.forall_mem_cons, Option.map_none, Option.map_some,
    Option.toList_some, Option.toList_none, List.append_nil, List.not_mem_nil, false_imp_iff,
    implies_true, and_true, List.cons_append, List.nil_append]
  exact ⟨scalars, scalars.1, nested, nested⟩

theorem registry_builtin : registry.Every (FieldSpec.Builtin registry.kinds) :=
  registry_every ⟨⟨.string, rfl, rfl⟩, ⟨.integer, rfl, rfl⟩, ⟨.string, rfl, rfl⟩⟩
    ⟨⟨.list, rfl, rfl⟩, ⟨.node, rfl, rfl⟩⟩

theorem registry_plain : registry.Every fun s =>
    s.FixedPattern ∧ s.PureDefault ∧ s.TextKeys ∧ s.PrimitiveForms ∧ s.Blind := by
  apply registry_every <;>
    simp [title, plays, genre, tracks, item, FieldSpec.FixedPattern, FieldSpec.TextKeys,
      FieldSpec.PrimitiveForms, FieldSpec.PureDefault, FieldSpec.Blind, FieldSpec.info]

theorem registry_reserves : registry.ReservesType := by
  simp [Registry.ReservesType, registry, track, album]

theorem registry_checkless : ∀ s ∈ registry.schemas, s.info.validator = none := by
  simp [registry, track, album]

/-- The only computed default looks at the arguments alone. -/
theorem registry_generator : registry.Every fun s => ∀ generate,
    s.info.default? = some (.computed generate) →
      generate = Generator.fromKwarg "genre" (.text "folk") := by
  apply registry_every <;> simp [title, plays, genre, tracks, item, FieldSpec.info]

/-- No ancestor matters to an album. -/
def regardless : Indifference registry where
  schemas _ := True
  alike _ _ := True
  push _ _ := trivial
  confined := registry.confined_of_builtin registry_builtin
  generator _ found _ declared generate default _ _ _ _ _ _ := by
    rw [(registry_generator.field found declared).self generate default]
    rfl
  check _ found check declared := by
    cases (registry_checkless _ (List.mem_of_find?_eq_some found)).symm.trans declared

theorem tracks_reproducible : tracks.Reproducible registry regardless.schemas where
  refers := regardless.confined trivial (show registry.find? "album" = some album from rfl) tracks
    (.tail _ (.head _))
  parts := (registry_plain.field (show registry.find? "album" = some album from rfl)
    (.tail _ (.head _))).mono fun _ h => h.2.2.2
  fields _ found spec declared := (registry_plain _ (List.mem_of_find?_eq_some found) spec
    declared).mono fun _ h => h.2.2.2
  nodes _ found check declared := by
    cases (registry_checkless _ (List.mem_of_find?_eq_some found)).symm.trans declared

def songs : Value := .list [.record [("title", .text "Rain")] true]

/-- The album of the song, whose plays and genre are marked or not. -/
def recorded (marks : List String) : Node where
  schema := "album"
  values := [("tracks", .list [.node ⟨"track",
    [("title", .text "Rain"), ("plays", .number 0), ("genre", .text "folk")], marks, none, []⟩])]
  defaulted := []
  choiceType := none
  compactable := []

/-- The list of songs makes the album that the record makes, without its marks. -/
theorem songs_make_album :
    (registry.validate [] songs "album" {}).result = .ok (.valid (recorded [])) ∧
      (registry.validate [] (.record [("tracks", songs)] true) "album" {}).result =
        .ok (.valid (recorded ["plays", "genre"])) ∧
      (recorded ["plays", "genre"]).serialize .none = (recorded []).serialize .none := by
  have short : (registry.validate [] songs "album" {}).result = .ok (.valid (recorded [])) := rfl
  have long : (registry.validate [] (.record [(tracks.name, songs)] true) "album" {}).result =
      .ok (.valid (recorded ["plays", "genre"])) := rfl
  have plain := registry_plain
  have same := Registry.validate_shortform registry_made registry_builtin
    (plain.mono fun _ h => h.1) (plain.mono fun _ h => h.2.1) (plain.mono fun _ h => h.2.2.1)
    registry_reserves
    (registry_generator.mono fun _ only generate default stack es kwargs field => by
      rw [only generate default]
      rfl)
    (fun s hs check declared => by cases (registry_checkless s hs).symm.trans declared)
    (o := {}) (show registry.find? "album" = some album from rfl)
    ⟨.tail _ (.head _), _, rfl, rfl, fun _ => rfl⟩ regardless tracks_reproducible
    (fun _ _ => trivial) (show songs.entries? = none from rfl) rfl [] []
  exact ⟨short, long, (same.2 _ _ short long).2⟩

end Albums

namespace Songs

/-- A schema that may be written as the value of its first field. -/
def brief (name : String) (f : FieldSpec) (others : List FieldSpec := [])
    (validator : Option NodeCheck := none) : Schema where
  name := name
  fields := f :: others
  info := { validator, shortform := some ⟨f, fun v => .ok [(f.name, v.serialize .none)]⟩ }

theorem brief_shortFor (name : String) (f : FieldSpec) (others : List FieldSpec)
    (validator : Option NodeCheck) : ∃ g, (brief name f others validator).fields.head? = some g ∧
      (brief name f others validator).ShortFor g :=
  ⟨f, rfl, .head _, _, rfl, rfl, fun _ => rfl⟩

def nodes (name target : String) (check : Option ValueCheck := none) : FieldSpec :=
  .list { name, kind := "list", constraints := { validator := check } }
    (.leaf { name := "item", kind := "node", constraints := { target := some target } })

/-- The first take has its length from the default. -/
def usual (takes : Value) : Bool :=
  match takes with
  | .list (.node n :: _) => n.isDefaulted "length"
  | _ => false

def verdict (pass : Bool) : Except Fault Verdict := .ok (if pass then .pass else .fail)

/-- A verse is sung in the key of the song around it. -/
def verse : Schema where
  name := "verse"
  fields := [.leaf {
    name := "key", kind := "string"
    default? := some (.computed (Generator.fromParent "key" none (.text "any"))) }]

def song : Schema := brief "song" (nodes "verses" "verse")
  [.leaf { name := "key", kind := "string", default? := some (.constant (.text "C")) }]

/-- A primitive form that makes a list of a text. -/
def mood : Schema := brief "mood" (.either { name := "tags", kind := "either" }
  (.leaf {
    name := "primitive", kind := "multiselection", constraints := { options := some ["calm"] } })
  (.leaf { name := "complex", kind := "integer" }))

def cover : Schema := brief "cover" (.leaf { name := "art", kind := "json", required := false })

def take : Schema where
  name := "take"
  fields := [
    .leaf { name := "length", kind := "integer", default? := some (.constant (.number 3)) }]

/-- A computed default, a check of a value and a check of a node see the marks of the takes. -/
def session : Schema := brief "session" (nodes "takes" "take") [.leaf {
  name := "usual", kind := "boolean"
  default? := some (.computed fun args =>
    .ok (.bool ((args.siblings.get? "takes").any usual))) }]

def review : Schema := brief "review" (nodes "takes" "take" (some fun v => verdict (usual v)))

def demo : Schema := brief "demo" (nodes "takes" "take") []
  (some fun args => verdict ((args.values.get? "takes").any usual))

/-- A hook comes before the tempo of its part. -/
def hook : Schema where
  name := "hook"
  fields := []
  info := { validator := some fun args => verdict !(parentOf args.stack).any (·.has "tempo") }

def part : Schema where
  name := "part"
  fields := [.leaf { name := "hook", kind := "node", constraints := { target := some "hook" } },
    .leaf {
      name := "tempo", kind := "integer"
      default? := some (.computed fun _ => .ok (.number 90)) }]

def medley : Schema := brief "medley" (nodes "parts" "part")

/-- Songs whose shortform is not the same as the record of its field. -/
def registry : Registry where
  kinds := .builtin
  schemas := [verse, song, mood, cover, take, session, review, demo, hook, part, medley]
  frozen := true

theorem registry_made : registry.Made := by
  have verses := Registry.Made.schema (.empty .builtin) (show Registry.register? _ verse.name
    (.specs verse.fields) verse.info = .ok (_, verse) from rfl)
  have songs := Registry.Made.schema verses (show Registry.register? _ song.name
    (.specs song.fields) song.info = .ok (_, song) from rfl)
  have moods := Registry.Made.schema songs (show Registry.register? _ mood.name
    (.specs mood.fields) mood.info = .ok (_, mood) from rfl)
  have covers := Registry.Made.schema moods (show Registry.register? _ cover.name
    (.specs cover.fields) cover.info = .ok (_, cover) from rfl)
  have takes := Registry.Made.schema covers (show Registry.register? _ take.name
    (.specs take.fields) take.info = .ok (_, take) from rfl)
  have sessions := Registry.Made.schema takes (show Registry.register? _ session.name
    (.specs session.fields) session.info = .ok (_, session) from rfl)
  have reviews := Registry.Made.schema sessions (show Registry.register? _ review.name
    (.specs review.fields) review.info = .ok (_, review) from rfl)
  have demos := Registry.Made.schema reviews (show Registry.register? _ demo.name
    (.specs demo.fields) demo.info = .ok (_, demo) from rfl)
  have hooks := Registry.Made.schema demos (show Registry.register? _ hook.name
    (.specs hook.fields) hook.info = .ok (_, hook) from rfl)
  have parts := Registry.Made.schema hooks (show Registry.register? _ part.name
    (.specs part.fields) part.info = .ok (_, part) from rfl)
  have medleys := Registry.Made.schema parts (show Registry.register? _ medley.name
    (.specs medley.fields) medley.info = .ok (_, medley) from rfl)
  exact .frozen medleys rfl rfl

/-- A built-in kind without a pattern, and a default that does not count. -/
def plain (s : FieldSpec) : Bool :=
  KindCatalog.builtin.has s.kind && s.info.constraints.pattern.isNone &&
    match s.info.default? with
    | some (.counting _ _) => false
    | _ => true

theorem memoryless_of_plain {s : FieldSpec} (h : plain s = true) : s.Memoryless .builtin := by
  simp only [plain, Bool.and_eq_true, Option.isNone_iff_eq_none] at h
  obtain ⟨⟨known, pattern⟩, default⟩ := h
  refine ⟨FieldSpec.builtin_of_has known, fun p some => ?_, fun cell make counting => ?_⟩
  · cases pattern.symm.trans some
  · rw [counting] at default
    cases default

theorem registry_plain : registry.Every (FieldSpec.Memoryless registry.kinds) := by
  have all : (registry.schemas.all fun s => s.allFields.all fun top => top.walk.all plain) = true :=
    rfl
  simp only [List.all_eq_true] at all
  exact fun s hs top ht part hp => memoryless_of_plain (all s hs top ht part hp)

/-- What a valid tree is written out as. -/
def written (raw : Value) (name : String) : Option (Entries Value) :=
  match (registry.validate [] raw name {}).result with
  | .ok (.valid n) => some (n.serialize .none)
  | _ => none

def given (field : String) (raw : Value) : Value := .record [(field, raw)] true

/-- The list of one item without entries. -/
def bare : Value := .list [.record [] true]

def hooked : Value := .list [given "hook" (.record [] true)]

theorem briefs_shortFor : ∀ s ∈ [song, mood, cover, session, review, demo, medley],
    registry.find? s.name = some s ∧ ∃ f, s.fields.head? = some f ∧ s.ShortFor f := by
  simp only [List.forall_mem_cons, List.not_mem_nil, false_imp_iff, implies_true, and_true]
  exact ⟨⟨rfl, brief_shortFor ..⟩, ⟨rfl, brief_shortFor ..⟩, ⟨rfl, brief_shortFor ..⟩,
    ⟨rfl, brief_shortFor ..⟩, ⟨rfl, brief_shortFor ..⟩, ⟨rfl, brief_shortFor ..⟩,
    ⟨rfl, brief_shortFor ..⟩⟩

set_option maxRecDepth 4000 in
/-- Where its output is not taken back, or something below it sees the node around it, or something
sees the marks of defaults, a shortform that stands for a field is told apart from it. -/
theorem shortforms_told_apart :
    registry.Made ∧
      registry.Every (FieldSpec.Memoryless registry.kinds) ∧
      (∀ s ∈ [song, mood, cover, session, review, demo, medley],
        registry.find? s.name = some s ∧ ∃ f, s.fields.head? = some f ∧ s.ShortFor f) ∧
      written bare "song" =
        some [("verses", .list [given "key" (.text "any")]), ("key", .text "C")] ∧
      written (given "verses" bare) "song" =
        some [("verses", .list [given "key" (.text "C")]), ("key", .text "C")] ∧
      written (.text "calm") "mood" = none ∧
      written (given "tags" (.text "calm")) "mood" = some [("tags", .list [.text "calm"])] ∧
      written (.exotic .keyless) "cover" = some [] ∧
      written (given "art" (.exotic .keyless)) "cover" = none ∧
      written bare "session" =
        some [("takes", .list [given "length" (.number 3)]), ("usual", .bool false)] ∧
      written (given "takes" bare) "session" =
        some [("takes", .list [given "length" (.number 3)]), ("usual", .bool true)] ∧
      written bare "review" = none ∧
      written (given "takes" bare) "review" =
        some [("takes", .list [given "length" (.number 3)])] ∧
      written bare "demo" = none ∧
      written (given "takes" bare) "demo" =
        some [("takes", .list [given "length" (.number 3)])] ∧
      written hooked "medley" = none ∧
      written (given "parts" hooked) "medley" =
        some [("parts", .list [.record [("hook", .record [] true), ("tempo", .number 90)] true])] :=
  ⟨registry_made, registry_plain, briefs_shortFor, rfl, rfl, rfl, rfl, rfl, rfl, rfl, rfl, rfl, rfl,
    rfl, rfl, rfl, rfl⟩

end Songs

end ShapedTree
