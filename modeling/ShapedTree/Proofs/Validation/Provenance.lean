import ShapedTree.Proofs.Kind.Inquiry
import ShapedTree.Proofs.Lists
import ShapedTree.Proofs.Run.Logic
import ShapedTree.Proofs.Validation.Drafts
import ShapedTree.Proofs.Validation.NodeSoundness

namespace ShapedTree

/-- The constraints without the pattern. -/
def Constraints.patternless (c : Constraints) : Constraints := { c with pattern := none }

/-- Where a field's value comes from: the record, a static default or a computed one. -/
inductive Validation.Source (record : Entries Value) (spec : FieldSpec) : Value → Prop
  | started {raw : Value} {defaulted : Bool}
      (start : Validation.Starts record spec (some (raw, defaulted))) : Source record spec raw
  | computed {generate : Generator} {args : GeneratorArgs} {raw : Value}
      (open_ : Validation.readKey record spec.name = none)
      (default : spec.info.default? = some (.computed generate))
      (made : generate args = .ok raw) : Source record spec raw

mutual

/-- A stored value is made from a raw one under a specification. -/
inductive Value.MadeFrom (r : Registry) : FieldSpec → Value → Value → Prop
  | null {spec : FieldSpec} : Value.MadeFrom r spec .null .null
  | scalar {spec : FieldSpec} {raw v : Value} {k : BuiltinKind} (known : r.kinds.Knows k spec)
      (flat : k.isNested = false)
      (taken : k.verdict spec.info.constraints.patternless raw = .ok v) :
      Value.MadeFrom r spec raw v
  | node {spec : FieldSpec} {raw : Value} {n : NodeOf Value} {target : String}
      (known : r.kinds.Knows .node spec) (named : spec.info.constraints.target = some target)
      (made : NodeOf.MadeFrom r target raw n) : Value.MadeFrom r spec raw (.node n)
  | choice {spec : FieldSpec} {raw : Value} {n : NodeOf Value} {group type schema : String}
      (known : r.kinds.Knows .choice spec) (named : spec.info.constraints.choice = some group)
      (member : (type, schema) ∈ r.choiceMembers group) (made : NodeOf.MadeFrom r schema raw n) :
      Value.MadeFrom r spec raw (.node n)
  | list {info : FieldInfo} {item : FieldSpec} {raw : Value} {items vs : List Value}
      (known : r.kinds.Knows .list (.list info item)) (shape : raw.items? = some items)
      (length : items.length = vs.length)
      (made : ∀ (i : Nat) (raw v : Value), items[i]? = some raw → vs[i]? = some v →
        Value.MadeFrom r item raw v) :
      Value.MadeFrom r (.list info item) raw (.list vs)
  | mapping {info : FieldInfo} {key part : FieldSpec} {raw : Value} {es fs : Entries Value}
      (known : r.kinds.Knows .mapping (.mapping info key part)) (shape : raw.entries? = some es)
      (length : es.length = fs.length) (distinct : (fs.map Prod.fst).Nodup)
      (keys : ∀ (i : Nat) (e f : String × Value), es[i]? = some e → fs[i]? = some f →
        Value.MadeFrom r key (.text e.1) (.text f.1))
      (values : ∀ (i : Nat) (e f : String × Value), es[i]? = some e → fs[i]? = some f →
        Value.MadeFrom r part e.2 f.2) :
      Value.MadeFrom r (.mapping info key part) raw
        (.record (Kind.sortMapping (key.kind == PartChecks.integerKeys) (Record.ofList fs)) true)
  | primitive {info : FieldInfo} {primitive complex : FieldSpec} {raw v : Value}
      (known : r.kinds.Knows .either (.either info primitive complex))
      (form : raw.isPrimitive = true) (made : Value.MadeFrom r primitive raw v) :
      Value.MadeFrom r (.either info primitive complex) raw v
  | complex {info : FieldInfo} {primitive complex : FieldSpec} {raw v : Value}
      (known : r.kinds.Knows .either (.either info primitive complex))
      (form : raw.isPrimitive = false) (made : Value.MadeFrom r complex raw v) :
      Value.MadeFrom r (.either info primitive complex) raw v

/-- A raw value is validated as a record: itself, or the expansion of the shortform. -/
inductive Value.ExpandsTo (r : Registry) : Schema → Value → Entries Value → Prop
  | record {schema : Schema} {raw : Value} {es : Entries Value} (shape : raw.entries? = some es) :
      Value.ExpandsTo r schema raw es
  | shortform {schema : Schema} {short : Shortform} {raw v : Value} {es : Entries Value}
      (shape : raw.entries? = none) (declared : schema.info.shortform = some short)
      (made : Value.MadeFrom r short.field raw v) (expanded : short.expand v = .ok es) :
      Value.ExpandsTo r schema raw es

/-- A node is made from a raw value as a node of the schema of a name: each of its values comes
from somewhere, and no supplied value is missing. -/
inductive NodeOf.MadeFrom (r : Registry) : String → Value → NodeOf Value → Prop
  | intro {name : String} {schema : Schema} {raw : Value} {record : Entries Value}
      {n : NodeOf Value} (source : String → Value) (found : r.find? name = some schema)
      (named : n.schema = name) (expands : Value.ExpandsTo r schema raw record)
      (supplied : ∀ spec ∈ schema.fields,
        (Validation.readKey record spec.name).isSome = true → n.has spec.name = true)
      (sources : ∀ spec ∈ schema.fields, n.has spec.name = true →
        Validation.Source record spec (source spec.name))
      (values : ∀ spec ∈ schema.fields, ∀ v, n.values.lookup spec.name = some v →
        Value.MadeFrom r spec (source spec.name) v) :
      NodeOf.MadeFrom r name raw n

end

namespace BuiltinKind

/-- Kinds that make nothing but a text of a text. A field with two forms does so if its primitive
form does. -/
def keepsTexts : BuiltinKind → Bool
  | .multiselection | .node | .choice | .either => false
  | _ => true

theorem text_of_keepsTexts {k : BuiltinKind} {c : Constraints} {s : String} {v : Value}
    (keeps : k.keepsTexts = true) (flat : k.isNested = false)
    (h : k.verdict c (.text s) = .ok v) : ∃ t, v = .text t := by
  cases k with
  | number | integer | boolean => cases h
  | multiselection => cases keeps
  | node | choice | list | mapping | either => cases flat
  | _ => exact text_of_verdict rfl h

end BuiltinKind

namespace FieldSpec

/-- No text is accepted as anything but a text. -/
inductive KeepsTexts : FieldSpec → Prop
  | plain {s : FieldSpec} {k : BuiltinKind} (kind : s.kind = k.tag) (keeps : k.keepsTexts = true) :
      KeepsTexts s
  | either {info : FieldInfo} {primitive complex : FieldSpec}
      (kind : (FieldSpec.either info primitive complex).kind = BuiltinKind.either.tag)
      (form : KeepsTexts primitive) : KeepsTexts (.either info primitive complex)

/-- The keys of a mapping, which are texts, are accepted as texts if at all. -/
def TextualKeys : FieldSpec → Prop
  | .mapping _ key _ => key.KeepsTexts
  | _ => True

/-- Keys of a kind that yields texts are accepted as texts. -/
theorem TextKeys.textual {s : FieldSpec} (h : s.TextKeys) : s.TextualKeys := by
  cases s with
  | mapping info key value =>
    obtain ⟨k, kind, yields⟩ := h
    have keeps : k.keepsTexts = true := by
      cases k with
      | multiselection | node | choice | either => cases yields
      | _ => rfl
    exact .plain kind keeps
  | _ => trivial

/-- What provenance relies on: a built-in kind, and keys that stay texts. -/
structure Traceable (c : KindCatalog) (s : FieldSpec) : Prop where
  builtin : s.Builtin c
  keys : s.TextualKeys

end FieldSpec

/-- What a text is made into stays a text where the specification keeps texts. -/
theorem Value.MadeFrom.text {r : Registry} {spec : FieldSpec} (keeps : spec.KeepsTexts)
    {s : String} {v : Value} (h : Value.MadeFrom r spec (.text s) v) : ∃ t, v = .text t := by
  have same : ∀ {k l : BuiltinKind} {part : FieldSpec}, part.kind = k.tag →
      r.kinds.Knows l part → k = l :=
    fun kind known => BuiltinKind.tag_injective (kind.symm.trans known.1)
  induction keeps generalizing v with
  | plain kind keeps =>
    cases h with
    | scalar known flat taken =>
      cases same kind known
      exact BuiltinKind.text_of_keepsTexts keeps flat taken
    | node known => cases same kind known; cases keeps
    | choice known => cases same kind known; cases keeps
    | list known shape | mapping known shape => cases shape
    | primitive known => cases same kind known; cases keeps
    | complex known => cases same kind known; cases keeps
  | either kind form ih =>
    cases h with
    | scalar known flat => cases same kind known; cases flat
    | node known => cases same kind known
    | choice known => cases same kind known
    | primitive known form made => exact ih made
    | complex known form => cases form

namespace Kind

variable {c : Constraints} {raw : Value}

/-- Whatever a pattern remembers, a text that passes keeps to its limits. -/
theorem checkText_grants (c : Constraints) (raw : Value) :
    Run.Grants (checkText Run.test c raw)
      (Settles fun s => textVerdict c.patternless raw = .ok s) := by
  cases raw with
  | text s =>
    simp only [checkText]
    cases limits : textLength c (Text.size s) with
    | some f => exact .pure (.found f)
    | none =>
      have fits : textVerdict c.patternless (.text s) = .ok s :=
        textVerdict_eq_ok.mpr ⟨rfl, textLength_eq_none_iff.mp limits, by
          simp [Constraints.patternless]⟩
      cases c.pattern with
      | none => exact .pure (.ok fits)
      | some p =>
        refine (Run.Grants.test p s).bind fun found _ => ?_
        cases found with
        | true => exact .pure (.ok fits)
        | false => exact .pure (.found _)
  | _ => exact .pure (.found _)

end Kind

namespace BuiltinKind

/-- A kind without parts finds something wrong, or makes what it makes without the pattern. -/
theorem check_grants {k : BuiltinKind} (flat : k.isNested = false) {info : FieldInfo}
    {ctx : KindContext Run} (tests : ctx.test = Run.test) (parts : PartChecks Run) (raw : Value) :
    Run.Grants (k.check ctx parts info raw)
      (Kind.Settles fun v => k.verdict info.constraints.patternless raw = .ok v) := by
  have texts := Kind.checkText_grants info.constraints raw
  cases k with
  | node | choice | list | mapping | either => cases flat
  | string =>
    simp only [check, tests]
    refine texts.bind fun result settles => .pure ?_
    rcases settles with ⟨f, fs, rfl⟩ | ⟨s, rfl, h⟩
    · exact .inl ⟨f, fs, rfl⟩
    · exact .ok (by simp only [verdict, h, Except.map])
  | identifier =>
    simp only [check, tests]
    refine texts.bind fun result settles => .pure (settles.bind fun s h => ?_)
    simp only [verdict, h, Except.bind]
    unfold Kind.checkIdentifier
    split
    · exact .ok rfl
    · exact .found _
  | pattern =>
    simp only [check, tests]
    refine texts.bind fun result settles => .pure (settles.bind fun s h => ?_)
    simp only [verdict, h, Except.bind]
    unfold Kind.checkPattern
    split
    · exact .ok rfl
    · exact .found _
  | _ => exact .pure (verdict_settles rfl info.constraints.patternless raw)

end BuiltinKind

namespace Validation

open Run

variable {rules : Rules} {node : NodeRun} {other : ValueRun}

/-- What provenance says of an accepted value. -/
structure Sourced (r : Registry) (spec : FieldSpec) (raw v : Value) : Prop where
  made : Value.MadeFrom r spec raw v
  defined : v.isUndefined = false

/-- What a kind makes of a raw value, whatever patterns remember, where the nodes and the parts
below satisfy laws. -/
inductive KindMakes (r : Registry) (NL : String → Value → Node → Prop)
    (VL : FieldSpec → Value → Value → Prop) : FieldSpec → Value → Value → Prop
  | null {spec : FieldSpec} : KindMakes r NL VL spec .null .null
  | scalar {spec : FieldSpec} {raw v : Value} {k : BuiltinKind} (known : r.kinds.Knows k spec)
      (flat : k.isNested = false)
      (taken : k.verdict spec.info.constraints.patternless raw = .ok v)
      (held : k.Holds spec.info.constraints.patternless v) : KindMakes r NL VL spec raw v
  | node {spec : FieldSpec} {raw : Value} {n : Node} {target : String}
      (known : r.kinds.Knows .node spec) (named : spec.info.constraints.target = some target)
      (taken : NL target raw n) : KindMakes r NL VL spec raw (.node n)
  | choice {spec : FieldSpec} {raw : Value} {n : Node} {group type schema : String}
      (known : r.kinds.Knows .choice spec) (named : spec.info.constraints.choice = some group)
      (member : (type, schema) ∈ r.choiceMembers group) (taken : NL schema raw n) :
      KindMakes r NL VL spec raw (.node n)
  | list {info : FieldInfo} {item : FieldSpec} {raw : Value} {items vs : List Value}
      (known : r.kinds.Knows .list (.list info item)) (shape : raw.items? = some items)
      (taken : List.Forall₂ (VL item) items vs) :
      KindMakes r NL VL (.list info item) raw (.list vs)
  | mapping {info : FieldInfo} {key part : FieldSpec} {raw : Value} {es fs : Entries Value}
      (known : r.kinds.Knows .mapping (.mapping info key part)) (shape : raw.entries? = some es)
      (distinct : (fs.map Prod.fst).Nodup)
      (taken : List.Forall₂ (fun e f : String × Value =>
        VL key (.text e.1) (.text f.1) ∧ VL part e.2 f.2) es fs) :
      KindMakes r NL VL (.mapping info key part) raw
        (.record (Kind.sortMapping (key.kind == PartChecks.integerKeys) (Record.ofList fs)) true)
  | primitive {info : FieldInfo} {primitive complex : FieldSpec} {raw v : Value}
      (known : r.kinds.Knows .either (.either info primitive complex))
      (form : raw.isPrimitive = true) (taken : VL primitive raw v) :
      KindMakes r NL VL (.either info primitive complex) raw v
  | complex {info : FieldInfo} {primitive complex : FieldSpec} {raw v : Value}
      (known : r.kinds.Knows .either (.either info primitive complex))
      (form : raw.isPrimitive = false) (taken : VL complex raw v) :
      KindMakes r NL VL (.either info primitive complex) raw v

variable {NL NL' : String → Value → Node → Prop} {VL VL' : FieldSpec → Value → Value → Prop}

theorem KindMakes.imp {r : Registry} {spec : FieldSpec} {raw v : Value}
    (h : KindMakes r NL VL spec raw v) (node : ∀ name raw n, NL name raw n → NL' name raw n)
    (part : ∀ spec raw v, VL spec raw v → VL' spec raw v) : KindMakes r NL' VL' spec raw v := by
  cases h with
  | null => exact .null
  | scalar known flat taken held => exact .scalar known flat taken held
  | node known named taken => exact .node known named (node _ _ _ taken)
  | choice known named member taken => exact .choice known named member (node _ _ _ taken)
  | list known shape taken => exact .list known shape (taken.imp fun _ _ => part _ _ _)
  | mapping known shape distinct taken =>
    exact .mapping known shape distinct (taken.imp fun _ _ h => h.imp (part _ _ _) (part _ _ _))
  | primitive known form taken => exact .primitive known form (part _ _ _ taken)
  | complex known form taken => exact .complex known form (part _ _ _ taken)

/-- A law of values that are not undefined. -/
abbrev Defined (VL : FieldSpec → Value → Value → Prop) (spec : FieldSpec) (raw v : Value) : Prop :=
  VL spec raw v ∧ v.isUndefined = false

theorem kind_makes {k : BuiltinKind} {spec : FieldSpec} {parts : PartChecks Run} {raw : Value}
    {place : Place} (known : rules.registry.kinds.Knows k spec) (keys : spec.TextualKeys)
    (present : (raw.isNull && !rules.registry.kinds.acceptsNull spec.kind) = false)
    (texts : ∀ {key s v}, key.KeepsTexts → VL key (.text s) v → ∃ t, v = .text t)
    (hnode : ∀ raw name place, Ensures (node raw name place) (Answers (NL name raw)))
    (hparts : PartsAnswer (Defined VL) spec parts) :
    Ensures (k.check (context rules node other spec place) parts spec.info raw)
      (Kind.Settles (Defined (KindMakes rules.registry NL VL) spec raw)) := by
  cases flat : k.isNested with
  | false =>
    rw [known.acceptsNull_eq] at present
    refine (BuiltinKind.check_grants flat rfl parts raw).ensures.mono fun result settles => ?_
    refine settles.mono fun v taken => ?_
    have held := BuiltinKind.holds_of_verdict flat taken present
    exact ⟨.scalar known flat taken held, held.isUndefined_eq⟩
  | true =>
    obtain ⟨q, asks, same⟩ := BuiltinKind.check_asks flat spec.info raw
    rw [same]
    cases asks with
    | mismatch | length => exact .pure (.found _)
    | @node target named =>
      refine (hnode raw target _).bind_answer (fun n => ?_) (.pure trivial)
      exact .pure fun hn => .ok ⟨.node known named hn, rfl⟩
    | @choice group named =>
      have members : ∀ place, Ensures (Choice.check rules node raw group place)
          (Answers (ChoiceAccepts rules.registry (fun raw name _ n => NL name raw n) raw group
            place.setting)) := Choice.check_ensures hnode raw group
      refine (members _).bind_answer (fun n => ?_) (.pure trivial)
      refine .pure fun hn => ?_
      obtain ⟨member, taken⟩ := hn
      exact .ok ⟨.choice known named member taken, rfl⟩
    | @items vs shape _ =>
      cases hparts with
      | list h =>
        refine (Kind.checkItems_ensures h 0 vs).bind_answer (fun ws => ?_) (.pure trivial)
        exact .pure fun hws => .ok ⟨.list known shape (hws.imp fun _ _ => And.left), rfl⟩
      | _ => exact .pure (.found _)
    | @entries es shape =>
      cases hparts with
      | mapping hkey hvalue =>
        refine (Kind.checkEntries_ensures hkey hvalue (fun s v h => texts keys h.1) es false []
          (by simp)).mono fun result h => (h rfl).mono ?_
        rintro v ⟨fs, all, distinct, rfl⟩
        refine ⟨.mapping known shape distinct ?_, rfl⟩
        exact all.imp fun _ _ h => ⟨h.1.1, h.2.1⟩
      | _ => exact .pure (.found _)
    | form =>
      cases hparts with
      | either hprimitive hcomplex =>
        simp only [Kind.Inquiry.result]
        cases form : raw.isPrimitive with
        | true =>
          refine (hprimitive raw "").bind_answer (fun v => ?_) (.pure trivial)
          exact .pure fun hv => .ok ⟨.primitive known form hv.1, hv.2⟩
        | false =>
          refine (hcomplex raw "").bind_answer (fun v => ?_) (.pure trivial)
          exact .pure fun hv => .ok ⟨.complex known form hv.1, hv.2⟩
      | _ => exact .pure (.found _)

/-- Checks of values answer with values that satisfy every law that kinds carry on from the parts to
the whole, where checks of nodes satisfy their law. -/
theorem checkSpec_makes
    (hnode : ∀ raw name place, Ensures (node raw name place) (Answers (NL name raw)))
    (texts : ∀ {key s v}, key.KeepsTexts → VL key (.text s) v → ∃ t, v = .text t)
    (closed : ∀ {spec raw v}, KindMakes rules.registry NL VL spec raw v → VL spec raw v)
    {spec : FieldSpec} (traceable : spec.Every (FieldSpec.Traceable rules.registry.kinds))
    (raw : Value) (place : Place) :
    Ensures (checkSpec rules node other spec raw place) (Answers (Defined VL spec raw)) := by
  have carried : ∀ {spec : FieldSpec} {parts : PartChecks Run} {raw : Value} {place : Place},
      FieldSpec.Traceable rules.registry.kinds spec → PartsAnswer (Defined VL) spec parts →
      Ensures (checkWith rules (context rules node other spec place) parts spec raw place.path)
        (Answers (Defined VL spec raw)) := by
    intro spec parts raw place traceable hparts
    obtain ⟨k, known⟩ := traceable.builtin
    have settles : (raw.isNull && !rules.registry.kinds.acceptsNull spec.kind) = false →
        Ensures (rules.registry.kinds.check spec.kind (context rules node other spec place) parts
          spec raw) (Kind.Settles (Defined (KindMakes rules.registry NL VL) spec raw)) := by
      intro present
      rw [known.check_eq]
      exact kind_makes known traceable.keys present texts hnode hparts
    refine (checkWith_answers settles).mono fun answer hanswer => hanswer.mono fun v hv => ?_
    rcases hv with ⟨rfl, rfl, -⟩ | ⟨-, -, taken, defined, -⟩
    · exact ⟨closed .null, rfl⟩
    · exact ⟨closed taken, defined⟩
  induction spec generalizing raw place with
  | leaf info => exact carried traceable.self .leaf
  | list info item ih =>
    exact carried traceable.self (.list fun raw label => ih traceable.item raw _)
  | mapping info key value ihKey ihValue =>
    exact carried traceable.self (.mapping (fun raw label => ihKey traceable.key raw _)
      fun raw label => ihValue traceable.value raw _)
  | either info primitive complex ihPrimitive ihComplex =>
    exact carried traceable.self (.either (fun raw label => ihPrimitive traceable.primitive raw _)
      fun raw label => ihComplex traceable.complex raw _)

/-- Provenance is carried on from the parts to the whole. -/
theorem KindMakes.madeFrom {r : Registry} {spec : FieldSpec} {raw v : Value}
    (h : KindMakes r (NodeOf.MadeFrom r) (Value.MadeFrom r) spec raw v) :
    Value.MadeFrom r spec raw v := by
  cases h with
  | null => exact .null
  | scalar known flat taken => exact .scalar known flat taken
  | node known named taken => exact .node known named taken
  | choice known named member taken => exact .choice known named member taken
  | list known shape taken =>
    exact .list known shape taken.length_eq (forall₂_iff_getElem?.mp taken).2
  | mapping known shape distinct taken =>
    refine .mapping known shape taken.length_eq distinct ?_ ?_
    · exact fun i e f he hf => ((forall₂_iff_getElem?.mp taken).2 i e f he hf).1
    · exact fun i e f he hf => ((forall₂_iff_getElem?.mp taken).2 i e f he hf).2
  | primitive known form taken => exact .primitive known form taken
  | complex known form taken => exact .complex known form taken

/-- Checks of values answer with values made from what they were given, where checks of nodes do. -/
theorem checkSpec_sourced
    (hnode : ∀ raw name place, Ensures (node raw name place)
      (Answers (NodeOf.MadeFrom rules.registry name raw)))
    {spec : FieldSpec} (traceable : spec.Every (FieldSpec.Traceable rules.registry.kinds))
    (raw : Value) (place : Place) :
    Ensures (checkSpec rules node other spec raw place)
      (Answers (Sourced rules.registry spec raw)) := by
  have made : Ensures (checkSpec rules node other spec raw place)
      (Answers (Defined (Value.MadeFrom rules.registry) spec raw)) :=
    checkSpec_makes hnode (fun keeps h => h.text keeps) KindMakes.madeFrom traceable raw place
  exact made.mono fun answer h => h.mono fun v taken => ⟨taken.1, taken.2⟩

end Validation

end ShapedTree
