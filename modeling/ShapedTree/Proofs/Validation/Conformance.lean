import ShapedTree.Proofs.Kind.MappingOrder
import ShapedTree.Proofs.Schema.History
import ShapedTree.Proofs.Validation.Drafts
import ShapedTree.Proofs.Validation.NodeSoundness

namespace ShapedTree

/-- What conformance may refer to besides a value: the schemas of its ancestors, root first, the
arguments and the level of its node. -/
structure Lineage where
  schemas : List String
  kwargs : Kwargs
  depth : Nat

namespace Lineage

/-- The lineage of the parts of a field. -/
def inside (l : Lineage) (spec : FieldSpec) : Lineage :=
  { l with kwargs := l.kwargs.override spec.info.kwargs }

/-- The lineage of a node that a field holds. -/
def below (l : Lineage) (spec : FieldSpec) : Lineage :=
  { l.inside spec with
    kwargs := (l.inside spec).kwargs.override spec.info.kwargs
    depth := l.depth + 1 }

/-- The lineage of the fields of a node. -/
def under (l : Lineage) (schema : String) : Lineage :=
  { l with schemas := l.schemas ++ [schema] }

end Lineage

mutual

/-- A stored value conforms to a specification. -/
inductive Value.Conforms (r : Registry) (maxDepth : Number) : FieldSpec → Lineage → Value → Prop
  | null {spec : FieldSpec} {l : Lineage} (nullable : spec.info.nullable = true) :
      Value.Conforms r maxDepth spec l .null
  | scalar {spec : FieldSpec} {l : Lineage} {v : Value} {k : BuiltinKind}
      (known : r.kinds.Knows k spec) (holds : k.Holds spec.info.constraints v)
      (passes : spec.Passes v) : Value.Conforms r maxDepth spec l v
  | node {spec : FieldSpec} {l : Lineage} {n : NodeOf Value} (known : r.kinds.Knows .node spec)
      (target : spec.info.constraints.target = some n.schema)
      (conforms : NodeOf.Conforms r maxDepth (l.below spec) n) (passes : spec.Passes (.node n)) :
      Value.Conforms r maxDepth spec l (.node n)
  | choice {spec : FieldSpec} {l : Lineage} {n : NodeOf Value} {group type : String}
      (known : r.kinds.Knows .choice spec) (named : spec.info.constraints.choice = some group)
      (member : (type, n.schema) ∈ r.choiceMembers group) (typed : n.choiceType = some type)
      (conforms : NodeOf.Conforms r maxDepth (l.below spec) n) (passes : spec.Passes (.node n)) :
      Value.Conforms r maxDepth spec l (.node n)
  | list {info : FieldInfo} {item : FieldSpec} {l : Lineage} {vs : List Value}
      (known : r.kinds.Knows .list (.list info item))
      (length : Kind.InLength info.constraints vs.length)
      (items : ∀ v ∈ vs, Value.Conforms r maxDepth item (l.inside (.list info item)) v)
      (passes : (FieldSpec.list info item).Passes (.list vs)) :
      Value.Conforms r maxDepth (.list info item) l (.list vs)
  | mapping {info : FieldInfo} {key part : FieldSpec} {l : Lineage} {es : List (String × Value)}
      (known : r.kinds.Knows .mapping (.mapping info key part))
      (keys : ∀ e ∈ es,
        Value.Conforms r maxDepth key (l.inside (.mapping info key part)) (.text e.1))
      (values : ∀ e ∈ es, Value.Conforms r maxDepth part (l.inside (.mapping info key part)) e.2)
      (distinct : (es.map Prod.fst).Nodup)
      (sorted : Kind.sortMapping (key.kind == PartChecks.integerKeys) es = es)
      (passes : (FieldSpec.mapping info key part).Passes (.record es true)) :
      Value.Conforms r maxDepth (.mapping info key part) l (.record es true)
  | primitive {info : FieldInfo} {primitive complex : FieldSpec} {l : Lineage} {v : Value}
      (known : r.kinds.Knows .either (.either info primitive complex))
      (form : Value.Conforms r maxDepth primitive (l.inside (.either info primitive complex)) v)
      (present : v.isNull = false)
      (passes : (FieldSpec.either info primitive complex).Passes v) :
      Value.Conforms r maxDepth (.either info primitive complex) l v
  | complex {info : FieldInfo} {primitive complex : FieldSpec} {l : Lineage} {v : Value}
      (known : r.kinds.Knows .either (.either info primitive complex))
      (form : Value.Conforms r maxDepth complex (l.inside (.either info primitive complex)) v)
      (present : v.isNull = false)
      (passes : (FieldSpec.either info primitive complex).Passes v) :
      Value.Conforms r maxDepth (.either info primitive complex) l v

/-- A node conforms to the schema that it names, and its values to the schema's fields. -/
inductive NodeOf.Conforms (r : Registry) (maxDepth : Number) : Lineage → NodeOf Value → Prop
  | intro {l : Lineage} {n : NodeOf Value} {schema : Schema}
      (found : r.find? n.schema = some schema)
      (order : (n.values.map Prod.fst).Sublist schema.fieldNames)
      (complete : ∀ spec ∈ schema.fields,
        spec.info.required = true ∨ spec.info.default?.isSome = true → n.has spec.name = true)
      (defaulted : ∀ field ∈ n.defaulted, n.has field = true ∧
        ∃ spec ∈ schema.fields, spec.name = field ∧ spec.info.default?.isSome = true)
      (typed : n.choiceType = schema.choiceType)
      (values : ∀ e ∈ n.values, ∀ spec ∈ schema.fields, spec.name = e.1 →
        Value.Conforms r maxDepth spec (l.under n.schema) e.2)
      (shallow : maxDepth.lt l.depth = false)
      (args : l.kwargs.missing (schema.info.requires.getD []) = [])
      (passes : ∃ stack, stack.map NodeView.schema = l.schemas ∧
        Validation.NodePasses schema (.ofList n.values) ⟨stack, l.kwargs, l.depth⟩) :
      NodeOf.Conforms r maxDepth l n

end

/-- The lineage of a setting. -/
def Setting.lineage (here : Setting) : Lineage :=
  ⟨here.stack.map NodeView.schema, here.kwargs, here.depth⟩

theorem Setting.lineage_under (here : Setting) (view : NodeView) :
    (here.under view).lineage = here.lineage.under view.schema := by
  simp [lineage, under, Lineage.under]

namespace Validation

variable {r : Registry} {maxDepth : Number}

/-- What conformance says of an accepted value. -/
structure Conforming (r : Registry) (maxDepth : Number) (spec : FieldSpec) (raw : Value)
    (here : Setting) (v : Value) : Prop where
  conforms : v.Conforms r maxDepth spec here.lineage
  reflects : Reflects raw v
  defined : v.isUndefined = false

/-- What conformance says of an accepted node. -/
structure NodeConforming (r : Registry) (maxDepth : Number) (raw : Value) (name : String)
    (here : Setting) (n : Node) : Prop where
  named : n.schema = name
  conforms : NodeOf.Conforms r maxDepth here.lineage n

/-- A node conforms to a schema if the rules accept it with values that conform. -/
theorem NodeAccepts.conforms {rules : Rules} (coherent : rules.registry.Coherent) {raw : Value}
    {name : String} {here : Setting} {n : Node}
    (h : NodeAccepts rules (Conforming rules.registry rules.maxDepth) raw name here n) :
    NodeConforming rules.registry rules.maxDepth raw name here n := by
  obtain ⟨found, shallow, args, -, accepted⟩ := h
  rename_i schema record
  have distinct : schema.fieldNames.Nodup :=
    coherent.fields schema (List.mem_of_find?_eq_some found)
  obtain ⟨last, rfl, hschema, passes, kept⟩ := accepted.draft distinct
  have hname := Registry.name_of_find? found
  -- Whatever the finished node holds was accepted for its field before the draft went on.
  have held : ∀ spec ∈ schema.fields, ∀ v, last.value? spec.name = some v →
      v.Conforms rules.registry rules.maxDepth spec (here.lineage.under name) := by
    intro spec hspec v hv
    rcases kept spec hspec with ⟨raw, w, before, hbefore, taken, value, -⟩ | ⟨lacks, -⟩
    · rw [Draft.value?_of_get? value taken.defined] at hv
      cases hv
      have conforms := taken.conforms
      rwa [Setting.lineage_under, show before.view.schema = name from
        hbefore.trans (hschema.trans hname)] at conforms
    · rw [Draft.value?_of_none lacks.1] at hv
      cases hv
  have named : (last.finish schema.fieldNames schema.choiceType schema.compactable).schema = name :=
    hschema.trans hname
  have present : ∀ spec ∈ schema.fields, ∀ v, last.get? spec.name = some v →
      v.isUndefined = false →
      (last.finish schema.fieldNames schema.choiceType schema.compactable).has spec.name = true := by
    intro spec hspec v value defined
    refine (Draft.has_finish distinct).mpr ⟨List.mem_map_of_mem hspec, ?_⟩
    rw [Draft.value?_of_get? value defined]
    rfl
  refine ⟨named, .intro (named.symm ▸ found) ?_ ?_ ?_ rfl ?_ shallow args ?_⟩
  · rw [Draft.values_finish distinct]
    exact Draft.keys_entries_sublist last schema.fieldNames
  · intro spec hspec wanted
    rcases kept spec hspec with ⟨raw, v, before, -, taken, value, -⟩ | ⟨-, optional, default⟩
    · exact present spec hspec v value taken.defined
    · simp [optional, default] at wanted
  · intro field marked
    obtain ⟨mem, marked⟩ := Draft.mem_defaulted_finish.mp marked
    obtain ⟨spec, hspec, rfl⟩ := List.mem_map.mp mem
    rcases kept spec hspec with ⟨raw, v, before, -, taken, value, default⟩ | ⟨lacks, -⟩
    · exact ⟨present spec hspec v value taken.defined, spec, hspec, rfl, default marked⟩
    · cases lacks.2.symm.trans marked
  · intro e he spec hspec same
    rw [Draft.values_finish distinct] at he
    obtain ⟨-, value⟩ := Draft.mem_entries.mp he
    rw [named]
    exact held spec hspec e.2 (same ▸ value)
  · refine ⟨here.stack, rfl, ?_⟩
    rw [Draft.values_finish distinct]
    exact passes

/-- A member of a choice group shows its type. -/
theorem NodeConforming.choiceType_eq {raw : Value} {group type name : String} {here : Setting}
    {n : Node} (coherent : r.Coherent) (h : NodeConforming r maxDepth raw name here n)
    (member : (type, name) ∈ r.choiceMembers group) : n.choiceType = some type := by
  obtain ⟨s, found, choice⟩ := (coherent.member_iff group type name).mp member
  obtain ⟨named, conforms⟩ := h
  cases conforms with
  | intro found' _ _ _ typed =>
    rw [named, found] at found'
    cases found'
    rw [typed, Schema.choiceType, choice]
    rfl

/-- The keys of a mapping of integers are canonical if they conform to a kind of such keys. -/
theorem integerKeys_of_conforms {key : FieldSpec} {l : Lineage} {es : Entries Value}
    (builtin : key.Builtin r.kinds) (kind : (key.kind == PartChecks.integerKeys) = true)
    (h : ∀ e ∈ es, Value.Conforms r maxDepth key l (.text e.1)) : Kind.IntegerKeys es := by
  intro k hk
  obtain ⟨e, he, rfl⟩ := List.mem_map.mp hk
  have tag : key.kind = BuiltinKind.integerText.tag := eq_of_beq kind
  have only : ∀ {b : BuiltinKind}, r.kinds.Knows b key → b = .integerText := fun known =>
    BuiltinKind.tag_injective (known.1.symm.trans tag)
  have conforms := h e he
  generalize hv : Value.text e.1 = v at conforms
  cases conforms with
  | scalar known holds =>
    cases only known
    cases holds with
    | integerText small => exact ⟨_, small, Value.text.inj hv⟩
  | primitive known => cases only known
  | complex known => cases only known
  | _ => cases hv

/-- The entries of a mapping that conforms are in order. -/
theorem sorted_of_conforms {info : FieldInfo} {key part : FieldSpec} {l : Lineage}
    {es : Entries Value} (known : r.kinds.Knows .mapping (.mapping info key part))
    (h : Value.Conforms r maxDepth (.mapping info key part) l (.record es true)) :
    Kind.sortMapping (key.kind == PartChecks.integerKeys) es = es := by
  cases h with
  | scalar other holds =>
    cases known.unique other
    cases holds
  | mapping _ _ _ _ sorted => exact sorted

/-- A value conforms to a specification if the rules accept it with parts that conform. -/
theorem ValueAccepts.conforms (coherent : r.Coherent) {spec : FieldSpec} {raw v : Value}
    {here : Setting} (regular : spec.Every (FieldSpec.Regular r.kinds))
    (h : ValueAccepts r.kinds (NodeConforming r maxDepth)
      (ChoiceAccepts r (NodeConforming r maxDepth)) (Conforming r maxDepth) spec raw here v) :
    Conforming r maxDepth spec raw here v := by
  have reflects : Reflects raw v := h.reflects fun _ _ _ _ part => part.reflects
  refine ⟨?_, reflects, h.isUndefined_eq⟩
  cases h with
  | null left nullable => exact .null nullable
  | value present defined taken held passes =>
    cases taken with
    | scalar known flat taken =>
      rw [known.acceptsNull_eq] at present
      exact .scalar known (BuiltinKind.holds_of_verdict flat taken present) passes
    | node known named taken =>
      exact .node known (taken.named.symm ▸ named) taken.conforms passes
    | choice known named taken =>
      obtain ⟨member, taken⟩ := taken
      exact .choice known named (taken.named.symm ▸ member) (taken.choiceType_eq coherent member)
        taken.conforms passes
    | @list info item raw items vs here known shape fits taken =>
      refine .list known ?_ (fun v hv => ?_) passes
      · rw [← taken.length_eq]
        exact Kind.listLength_eq_none_iff.mp fits
      · obtain ⟨raw, -, part⟩ := exists_left_of_mem taken v hv
        exact part.conforms
    | @mapping info key part raw es fs here known shape taken distinct =>
      have parts : ∀ e ∈ Kind.sortMapping (key.kind == PartChecks.integerKeys) (Record.ofList fs),
          Value.Conforms r maxDepth key (here.lineage.inside (.mapping info key part))
            (.text e.1) ∧
          Value.Conforms r maxDepth part (here.lineage.inside (.mapping info key part)) e.2 := by
        intro e he
        obtain ⟨d, -, hkey, hvalue⟩ := exists_left_of_mem taken e
          (Record.mem_of_mem_ofList (Kind.mem_of_mem_sortMapping he))
        exact ⟨hkey.conforms, hvalue.conforms⟩
      refine .mapping known (fun e he => (parts e he).1) (fun e he => (parts e he).2)
        (Kind.nodup_sortMapping _ _) ?_ passes
      have keys : ∀ e ∈ Record.ofList fs,
          Value.Conforms r maxDepth key (here.lineage.inside (.mapping info key part))
            (.text e.1) := fun e he =>
        have ⟨d, _, hkey, _⟩ := exists_left_of_mem taken e (Record.mem_of_mem_ofList he)
        hkey.conforms
      -- The keys are normalized integers, so that their order determines the sorted entries.
      exact Kind.sortMapping_sortMapping fun integers =>
        integerKeys_of_conforms regular.key.self.builtin integers keys
    | either known taken =>
      have value : v.isNull = false := Bool.eq_false_iff.mpr fun null => by
        rw [reflects.null null, known.acceptsNull_eq] at present
        cases present
      split at taken
      · exact .primitive known taken.conforms value passes
      · exact .complex known taken.conforms value passes

/-- A value that a run accepts without issues conforms to the registry, if the nodes below do. -/
theorem checkValue_conforms {rules : Rules} (coherent : rules.registry.Coherent) {levels : Nat}
    (nodes : ∀ raw name place, Run.Ensures (checkNodeAt rules levels raw name place)
      (Run.Answers (NodeConforming rules.registry rules.maxDepth raw name place.setting)))
    {spec : FieldSpec} (regular : spec.Every (FieldSpec.Regular rules.registry.kinds))
    (raw : Value) (place : Place) :
    Run.Ensures (checkValue rules (checkNodeAt rules levels) questionLimit spec raw place)
      (Run.Answers (Conforming rules.registry rules.maxDepth spec raw place.setting)) := by
  rw [checkValue_eq]
  exact checkSpec_lawful (fun _ => id) nodes (fun spec raw place v good accepted _ =>
    accepted.conforms coherent good) regular raw place

/-- A node that a run accepts without issues conforms to the registry. -/
theorem checkNodeAt_conforms {rules : Rules} (coherent : rules.registry.Coherent)
    (regular : rules.registry.Every (FieldSpec.Regular rules.registry.kinds)) (levels : Nat)
    (raw : Value) (name : String) (place : Place) :
    Run.Ensures (checkNodeAt rules levels raw name place)
      (Run.Answers (NodeConforming rules.registry rules.maxDepth raw name place.setting)) := by
  induction levels generalizing raw name place with
  | zero => exact .throw
  | succ levels ih =>
    refine (checkNodeWith_ensures regular (fun spec hspec raw place => ?_) raw name place).mono
      fun answer accepted => accepted.mono fun n h => NodeAccepts.conforms coherent h
    exact checkValue_conforms coherent ih hspec raw place

end Validation

/-- Soundness of acceptance: a valid tree is a node of the schema that was asked for and conforms to
the registry at every level. -/
theorem Registry.conforms_of_valid {r : Registry} (made : r.Made)
    (builtin : r.Every (FieldSpec.Builtin r.kinds)) (fixed : r.Every FieldSpec.FixedPattern)
    (keys : r.Every FieldSpec.TextKeys) {memory : Memory} {raw : Value} {schema : String}
    {o : ValidateOptions} {n : Node}
    (valid : (r.validate memory raw schema o).result = .ok (.valid n)) :
    n.schema = schema ∧
      NodeOf.Conforms r o.maxDepth ⟨o.stack.map NodeView.schema, o.kwargs, 1⟩ n := by
  obtain ⟨-, t, run, clean⟩ := validate_eq_valid_iff.mp valid
  have regular : r.Every (FieldSpec.Regular r.kinds) := fun s hs top ht part hp =>
    ⟨builtin s hs top ht part hp, fixed s hs top ht part hp, keys s hs top ht part hp⟩
  have coherent : (o.rules r).registry.Coherent := made.coherent
  have sound := Validation.checkNodeAt_conforms coherent regular
    (Validation.levels o.maxDepth) raw schema ⟨[], o.stack, o.kwargs, 1⟩
  obtain ⟨m, same, conforms⟩ := (sound _ _ _ run).2 clean
  cases same
  exact ⟨conforms.named, conforms.conforms⟩

namespace Library

/-- A book whose first part does not say that it is a chapter, without a rank. -/
def draft : Value := .record [("title", .text "Woods"), ("parts", .list [
  .record [("title", .text "Oak")] true,
  .record [("type", .text "note"), ("text", .text "Burnt.")] true])] true

def edition : Node where
  schema := "book"
  values := [("title", .text "Woods"), ("parts", .list [
    .node ⟨"chapter", [("title", .text "Oak"), ("label", .list [.text "Woods", .text "Oak"])],
      ["label"], some "chapter", []⟩,
    .node ⟨"note", [("text", .text "Burnt.")], [], some "note", []⟩]), ("rank", .number 1)]
  defaulted := ["rank"]
  choiceType := none
  compactable := []

set_option maxRecDepth 4000 in
theorem validate_draft : (registry.validate [] draft "book" {}).result = .ok (.valid edition) := rfl

/-- The edition conforms to the registry of books. -/
theorem edition_conforms : (registry.validate [] draft "book" {}).result = .ok (.valid edition) ∧
    edition.schema = "book" ∧ NodeOf.Conforms registry 512 ⟨[], {}, 1⟩ edition :=
  ⟨validate_draft, Registry.conforms_of_valid registry_made registry_builtin
    (registry_plain.mono fun _ h => h.1) (registry_plain.mono fun _ h => h.2.1) validate_draft⟩

end Library

end ShapedTree
