import Mathlib.Data.List.Forall2
import ShapedTree.Proofs.Kind.Stored
import ShapedTree.Proofs.Lists
import ShapedTree.Validation.Tree

namespace ShapedTree

/-- Where a value stands, apart from the path that reports name. -/
structure Setting where
  stack : List NodeView
  kwargs : Kwargs
  depth : Nat

/-- The setting of a place. -/
def Place.setting (p : Place) : Setting := ⟨p.stack, p.kwargs, p.depth⟩

namespace Setting

/-- A place with the given path. -/
def place (here : Setting) (path : List String) : Place :=
  ⟨path, here.stack, here.kwargs, here.depth⟩

/-- The setting of the parts of a field. -/
def inside (here : Setting) (spec : FieldSpec) : Setting :=
  { here with kwargs := here.kwargs.override spec.info.kwargs }

/-- The setting of a node that a field holds. -/
def below (here : Setting) (spec : FieldSpec) : Setting :=
  { here.inside spec with
    kwargs := (here.inside spec).kwargs.override spec.info.kwargs
    depth := here.depth + 1 }

/-- The setting of the fields of a node that shows so much. -/
def under (here : Setting) (view : NodeView) : Setting :=
  { here with stack := here.stack ++ [view] }

end Setting

/-- What is said of a raw value, the value it is accepted as, and where. -/
abbrev ValueLaw := FieldSpec → Value → Setting → Value → Prop

/-- What is said of a raw value, the name of a schema or group, and the node it is accepted as. -/
abbrev NodeLaw := Value → String → Setting → Node → Prop

namespace Validation

/-- A kind accepts a raw value. -/
inductive KindAccepts (c : KindCatalog) (node choice : NodeLaw) (value : ValueLaw) : ValueLaw
  | scalar {spec : FieldSpec} {raw : Value} {here : Setting} {v : Value} {k : BuiltinKind}
      (known : c.Knows k spec) (flat : k.isNested = false)
      (taken : k.verdict spec.info.constraints raw = .ok v) :
      KindAccepts c node choice value spec raw here v
  | node {spec : FieldSpec} {raw : Value} {here : Setting} {target : String} {n : Node}
      (known : c.Knows .node spec) (named : spec.info.constraints.target = some target)
      (taken : node raw target (here.below spec) n) :
      KindAccepts c node choice value spec raw here (.node n)
  | choice {spec : FieldSpec} {raw : Value} {here : Setting} {group : String} {n : Node}
      (known : c.Knows .choice spec) (named : spec.info.constraints.choice = some group)
      (taken : choice raw group (here.below spec) n) :
      KindAccepts c node choice value spec raw here (.node n)
  | list {info : FieldInfo} {item : FieldSpec} {raw : Value} {items vs : List Value}
      {here : Setting} (known : c.Knows .list (.list info item))
      (shape : raw.items? = some items)
      (fits : Kind.listLength info.constraints items.length = none)
      (taken : List.Forall₂ (fun raw v => value item raw (here.inside (.list info item)) v)
        items vs) :
      KindAccepts c node choice value (.list info item) raw here (.list vs)
  | mapping {info : FieldInfo} {key part : FieldSpec} {raw : Value} {es fs : Entries Value}
      {here : Setting} (known : c.Knows .mapping (.mapping info key part))
      (shape : raw.entries? = some es)
      (taken : List.Forall₂ (fun e f : String × Value =>
        value key (.text e.1) (here.inside (.mapping info key part)) (.text f.1) ∧
        value part e.2 (here.inside (.mapping info key part)) f.2) es fs)
      (distinct : (fs.map Prod.fst).Nodup) :
      KindAccepts c node choice value (.mapping info key part) raw here
        (.record (Kind.sortMapping (key.kind == PartChecks.integerKeys) (Record.ofList fs)) true)
  | either {info : FieldInfo} {primitive complex : FieldSpec} {raw v : Value} {here : Setting}
      (known : c.Knows .either (.either info primitive complex))
      (taken : value (if raw.isPrimitive then primitive else complex) raw
        (here.inside (.either info primitive complex)) v) :
      KindAccepts c node choice value (.either info primitive complex) raw here v

theorem KindAccepts.mono {c : KindCatalog} {node node' choice choice' : NodeLaw}
    {value value' : ValueLaw} {spec : FieldSpec} {raw v : Value} {here : Setting}
    (h : KindAccepts c node choice value spec raw here v)
    (nodes : ∀ raw name here n, node raw name here n → node' raw name here n)
    (choices : ∀ raw group here n, choice raw group here n → choice' raw group here n)
    (values : ∀ spec raw here v, value spec raw here v → value' spec raw here v) :
    KindAccepts c node' choice' value' spec raw here v := by
  cases h with
  | scalar known flat taken => exact .scalar known flat taken
  | node known named taken => exact .node known named (nodes _ _ _ _ taken)
  | choice known named taken => exact .choice known named (choices _ _ _ _ taken)
  | list known shape fits taken =>
    exact .list known shape fits (taken.imp fun _ _ => values _ _ _ _)
  | mapping known shape taken distinct =>
    exact .mapping known shape
      (taken.imp fun _ _ part => ⟨values _ _ _ _ part.1, values _ _ _ _ part.2⟩) distinct
  | either known taken => exact .either known (values _ _ _ _ taken)

/-- A value of a kind without parts is the verdict of that kind. -/
theorem KindAccepts.verdict_eq {c : KindCatalog} {node choice : NodeLaw} {value : ValueLaw}
    {spec : FieldSpec} {raw v : Value} {here : Setting} {k : BuiltinKind}
    (h : KindAccepts c node choice value spec raw here v) (kind : spec.kind = k.tag)
    (flat : k.isNested = false) : k.verdict spec.info.constraints raw = .ok v := by
  have other : ∀ {l : BuiltinKind} {s : FieldSpec}, c.Knows l s → s.kind = k.tag → k = l :=
    fun known same => BuiltinKind.tag_injective (same.symm.trans known.1)
  cases h with
  | scalar known _ taken => exact (other known kind) ▸ taken
  | node known => cases other known kind; cases flat
  | choice known => cases other known kind; cases flat
  | list known => cases other known kind; cases flat
  | mapping known => cases other known kind; cases flat
  | either known => cases other known kind; cases flat

/-- A specification accepts a raw value: null where it may be, or what its kind and its extra check
accept. -/
inductive ValueAccepts (c : KindCatalog) (node choice : NodeLaw) (value : ValueLaw) : ValueLaw
  | null {spec : FieldSpec} {here : Setting} (left : c.acceptsNull spec.kind = false)
      (nullable : spec.info.nullable = true) : ValueAccepts c node choice value spec .null here .null
  | value {spec : FieldSpec} {raw v : Value} {here : Setting}
      (present : (raw.isNull && !c.acceptsNull spec.kind) = false)
      (defined : raw.isUndefined = false)
      (taken : KindAccepts c node choice value spec raw here v) (held : v.isUndefined = false)
      (passes : spec.Passes v) : ValueAccepts c node choice value spec raw here v

theorem ValueAccepts.mono {c : KindCatalog} {node node' choice choice' : NodeLaw}
    {value value' : ValueLaw} {spec : FieldSpec} {raw v : Value} {here : Setting}
    (h : ValueAccepts c node choice value spec raw here v)
    (nodes : ∀ raw name here n, node raw name here n → node' raw name here n)
    (choices : ∀ raw group here n, choice raw group here n → choice' raw group here n)
    (values : ∀ spec raw here v, value spec raw here v → value' spec raw here v) :
    ValueAccepts c node' choice' value' spec raw here v := by
  cases h with
  | null left nullable => exact .null left nullable
  | value present defined taken held passes =>
    exact .value present defined (taken.mono nodes choices values) held passes

theorem ValueAccepts.isUndefined_eq {c : KindCatalog} {node choice : NodeLaw} {value : ValueLaw}
    {spec : FieldSpec} {raw v : Value} {here : Setting}
    (h : ValueAccepts c node choice value spec raw here v) : v.isUndefined = false := by
  cases h with
  | null => rfl
  | value _ _ _ held => exact held

/-- A stored value is null only for null and primitive only for a primitive. -/
structure Reflects (raw v : Value) : Prop where
  null : v.isNull = true → raw.isNull = true
  primitive : v.isPrimitive = true → raw.isPrimitive = true

theorem ValueAccepts.reflects {c : KindCatalog} {node choice : NodeLaw} {value : ValueLaw}
    {spec : FieldSpec} {raw v : Value} {here : Setting}
    (h : ValueAccepts c node choice value spec raw here v)
    (parts : ∀ spec raw here v, value spec raw here v → Reflects raw v) : Reflects raw v := by
  cases h with
  | null => exact ⟨id, id⟩
  | value present defined taken =>
    cases taken with
    | scalar known flat taken =>
      rw [known.acceptsNull_eq] at present
      have stored := BuiltinKind.holds_of_verdict flat taken present
      refine ⟨fun null => ?_, BuiltinKind.isPrimitive_of_stored flat taken⟩
      cases null.symm.trans stored.isNull_eq
    | either _ taken => exact parts _ _ _ _ taken
    | _ => exact ⟨nofun, nofun⟩

theorem ValueAccepts.text {c : KindCatalog} {node choice : NodeLaw} {value : ValueLaw}
    {spec : FieldSpec} {s : String} {v : Value} {here : Setting} {k : BuiltinKind}
    (h : ValueAccepts c node choice value spec (.text s) here v) (kind : spec.kind = k.tag)
    (yields : k.yieldsText = true) : ∃ t, v = .text t := by
  have flat : k.isNested = false := by cases k <;> first | rfl | cases yields
  cases h with
  | value _ _ taken => exact BuiltinKind.text_of_verdict yields (taken.verdict_eq kind flat)

/-- Some member of a group accepts a raw value. -/
inductive ChoiceAccepts (r : Registry) (node : NodeLaw) : NodeLaw
  | intro {raw : Value} {group type schema : String} {here : Setting} {n : Node}
      (member : (type, schema) ∈ r.choiceMembers group) (taken : node raw schema here n) :
      ChoiceAccepts r node raw group here n

theorem ChoiceAccepts.mono {r : Registry} {node node' : NodeLaw} {raw : Value} {group : String}
    {here : Setting} {n : Node} (h : ChoiceAccepts r node raw group here n)
    (nodes : ∀ raw name here n, node raw name here n → node' raw name here n) :
    ChoiceAccepts r node' raw group here n := by
  obtain ⟨member, taken⟩ := h
  exact .intro member (nodes _ _ _ _ taken)

/-- A static default may produce a value. -/
inductive Produces : FieldDefault → Value → Prop
  | constant (v : Value) : Produces (.constant v) v
  | factory {made : Except Fault Value} {v : Value} (h : made = .ok v) :
      Produces (.factory made) v
  | counting {cell : Nat} {make : Nat → Except Fault Value} {count : Nat} {v : Value}
      (h : make count = .ok v) : Produces (.counting cell make) v

/-- A field starts from a supplied value, from a static default, or from nothing yet. -/
inductive Starts (record : Entries Value) (spec : FieldSpec) : Option (Value × Bool) → Prop
  | supplied {raw : Value} (h : readKey record spec.name = some raw) :
      Starts record spec (some (raw, false))
  | produced {d : FieldDefault} {raw : Value} (h : readKey record spec.name = none)
      (default : spec.info.default? = some d) (made : Produces d raw) :
      Starts record spec (some (raw, true))
  | computed {generate : Generator} (h : readKey record spec.name = none)
      (default : spec.info.default? = some (.computed generate)) : Starts record spec none
  | absent (h : readKey record spec.name = none) (default : spec.info.default? = none) :
      Starts record spec none

/-- A raw value waits for the second pass. -/
def Waits (c : KindCatalog) (spec : FieldSpec) (raw : Value) : Prop :=
  raw.isNull = false ∧ c.isNested spec.kind = true

/-- The first pass over the fields, from a draft to the fields' slots and a draft. -/
inductive FirstPass (c : KindCatalog) (value : ValueLaw) (record : Entries Value)
    (here : Setting) : Draft → List FieldSpec → List Slot → Draft → Prop
  | done (d : Draft) : FirstPass c value record here d [] [] d
  | absent {d d' : Draft} {spec : FieldSpec} {rest : List FieldSpec} {slots : List Slot}
      (start : Starts record spec none) (next : FirstPass c value record here d rest slots d') :
      FirstPass c value record here d (spec :: rest) ({ spec } :: slots) d'
  | waits {d d' : Draft} {spec : FieldSpec} {rest : List FieldSpec} {slots : List Slot}
      {raw : Value} {defaulted : Bool} (start : Starts record spec (some (raw, defaulted)))
      (waits : Waits c spec raw) (next : FirstPass c value record here d rest slots d') :
      FirstPass c value record here d (spec :: rest)
        ({ spec, supplied := !defaulted, waiting := some (raw, defaulted) } :: slots) d'
  | fills {d d' : Draft} {spec : FieldSpec} {rest : List FieldSpec} {slots : List Slot}
      {raw v : Value} {defaulted : Bool} (start : Starts record spec (some (raw, defaulted)))
      (ready : ¬ Waits c spec raw) (taken : value spec raw (here.under d.view) v)
      (next : FirstPass c value record here (d.set spec.name v defaulted) rest slots d') :
      FirstPass c value record here d (spec :: rest) ({ spec, supplied := !defaulted } :: slots) d'

theorem FirstPass.mono {c : KindCatalog} {value value' : ValueLaw} {record : Entries Value}
    {here : Setting} {d d' : Draft} {specs : List FieldSpec} {slots : List Slot}
    (h : FirstPass c value record here d specs slots d')
    (values : ∀ spec raw here v, value spec raw here v → value' spec raw here v) :
    FirstPass c value' record here d specs slots d' := by
  induction h with
  | done d => exact .done d
  | absent start _ ih => exact .absent start ih
  | waits start waits _ ih => exact .waits start waits ih
  | fills start ready taken _ ih => exact .fills start ready (values _ _ _ _ taken) ih

/-- A slot that the second pass leaves alone. -/
def Slot.Settled (slot : Slot) : Prop :=
  slot.waiting = none ∧
    (slot.supplied = true ∨ ∀ generate, slot.spec.info.default? ≠ some (.computed generate))

/-- The second pass over the slots, with the names of the fields before. -/
inductive SecondPass (value : ValueLaw) (here : Setting) :
    List String → Draft → List Slot → Draft → Prop
  | done (earlier : List String) (d : Draft) : SecondPass value here earlier d [] d
  | waited {earlier : List String} {d d' : Draft} {slot : Slot} {rest : List Slot}
      {raw v : Value} {defaulted : Bool} (waiting : slot.waiting = some (raw, defaulted))
      (taken : value slot.spec raw (here.under d.view) v)
      (next : SecondPass value here (earlier ++ [slot.spec.name])
        (d.set slot.spec.name v defaulted) rest d') :
      SecondPass value here earlier d (slot :: rest) d'
  | computed {earlier : List String} {d d' : Draft} {slot : Slot} {rest : List Slot}
      {raw v : Value} {generate : Generator} (waiting : slot.waiting = none)
      (open_ : slot.supplied = false)
      (default : slot.spec.info.default? = some (.computed generate))
      (made : generate ⟨here.stack, d.snapshot earlier, here.kwargs, slot.spec.name⟩ = .ok raw)
      (taken : value slot.spec raw (here.under d.view) v)
      (next : SecondPass value here (earlier ++ [slot.spec.name])
        (d.set slot.spec.name v true) rest d') :
      SecondPass value here earlier d (slot :: rest) d'
  | settled {earlier : List String} {d d' : Draft} {slot : Slot} {rest : List Slot}
      (settled : slot.Settled)
      (next : SecondPass value here (earlier ++ [slot.spec.name]) d rest d') :
      SecondPass value here earlier d (slot :: rest) d'

theorem SecondPass.mono {value value' : ValueLaw} {here : Setting} {earlier : List String}
    {d d' : Draft} {slots : List Slot} (h : SecondPass value here earlier d slots d')
    (values : ∀ spec raw here v, value spec raw here v → value' spec raw here v) :
    SecondPass value' here earlier d slots d' := by
  induction h with
  | done earlier d => exact .done earlier d
  | waited waiting taken _ ih => exact .waited waiting (values _ _ _ _ taken) ih
  | computed waiting unsupplied default made taken _ ih =>
    exact .computed waiting unsupplied default made (values _ _ _ _ taken) ih
  | settled settled _ ih => exact .settled settled ih

/-- The record names the type of the schema, or none. -/
def TypeFits (schema : Schema) (record : Entries Value) : Prop :=
  ∀ membership type, schema.info.choice = some membership → readKey record "type" = some type →
    type.same (.text membership.type) = true

/-- In strict mode the schema accepts every key. -/
def KeysFit (rules : Rules) (schema : Schema) (record : Entries Value) : Prop :=
  rules.unknownFields = .strict → ∀ e ∈ record, acceptsKey schema e.1 = true

/-- Required fields without a default are supplied. -/
def Complete (slots : List Slot) : Prop :=
  ∀ slot ∈ slots, slot.spec.info.required = true → slot.spec.info.default? = none →
    slot.supplied = true

/-- The check of the node passes. -/
def NodePasses (schema : Schema) (values : Snapshot) (here : Setting) : Prop :=
  ∀ check, schema.info.validator = some check →
    check ⟨values, here.stack, here.kwargs⟩ = .ok .pass

/-- A schema accepts a record as a node. -/
inductive FieldsAccept (rules : Rules) (value : ValueLaw) (schema : Schema)
    (record : Entries Value) (here : Setting) : Node → Prop
  | intro {slots : List Slot} {first last : Draft} (type : TypeFits schema record)
      (keys : KeysFit rules schema record)
      (explicit : FirstPass rules.registry.kinds value record here { schema := schema.name }
        schema.fields slots first)
      (nested : SecondPass value here [] first slots last) (complete : Complete slots)
      (passes : NodePasses schema (last.snapshot schema.fieldNames) here) :
      FieldsAccept rules value schema record here
        (last.finish schema.fieldNames schema.choiceType schema.compactable)

/-- A raw value is validated as a record: itself, or the expansion of the shortform. -/
inductive Expands (value : ValueLaw) (schema : Schema) (here : Setting) :
    Value → Entries Value → Prop
  | record {raw : Value} {es : Entries Value} (h : raw.entries? = some es) :
      Expands value schema here raw es
  | shortform {raw v : Value} {es : Entries Value} {short : Shortform}
      (h : raw.entries? = none) (declared : schema.info.shortform = some short)
      (taken : value short.field raw here v) (expanded : short.expand v = .ok es) :
      Expands value schema here raw es

/-- A raw value is accepted as a node of the schema of a name. -/
inductive NodeAccepts (rules : Rules) (value : ValueLaw) : NodeLaw
  | intro {raw : Value} {name : String} {here : Setting} {n : Node} {schema : Schema}
      {record : Entries Value} (found : rules.registry.find? name = some schema)
      (shallow : rules.maxDepth.lt here.depth = false)
      (args : here.kwargs.missing (schema.info.requires.getD []) = [])
      (expands : Expands value schema here raw record)
      (fields : FieldsAccept rules value schema record here n) :
      NodeAccepts rules value raw name here n

theorem NodeAccepts.mono {rules : Rules} {value value' : ValueLaw} {raw : Value} {name : String}
    {here : Setting} {n : Node} (h : NodeAccepts rules value raw name here n)
    (values : ∀ spec raw here v, value spec raw here v → value' spec raw here v) :
    NodeAccepts rules value' raw name here n := by
  obtain ⟨found, shallow, args, expands, type, keys, explicit, nested, complete, passes⟩ := h
  refine .intro found shallow args ?_
    (.intro type keys (explicit.mono values) (nested.mono values) complete passes)
  cases expands with
  | record shape => exact .record shape
  | shortform shape declared taken expanded =>
    exact .shortform shape declared (values _ _ _ _ taken) expanded

end Validation

end ShapedTree
