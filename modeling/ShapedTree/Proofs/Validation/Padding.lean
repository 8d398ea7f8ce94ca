import ShapedTree.Proofs.Schema.History
import ShapedTree.Proofs.Validation.NodeEcho

namespace ShapedTree

open Validation

/-- The values differ in nothing but what records that stand as nodes hold under `key`, at any
depth. They may stand as well where neither is accepted. -/
inductive Padded (r : Registry) (key : String) : Position → Value → Value → Prop
  | refl (p : Position) (v : Value) : Padded r key p v v
  | record {name : String} {v w : Value} {es fs : Entries Value} (left : v.entries? = some es)
      (right : w.entries? = some fs)
      (others : ∀ other, other ≠ key →
        (∀ schema, r.find? name = some schema → other ∉ schema.fieldNames) →
        readKey es other = readKey fs other)
      (supplied : ∀ schema spec, r.find? name = some schema → spec ∈ schema.fields →
        spec.name ≠ key → (readKey es spec.name).isSome = (readKey fs spec.name).isSome)
      (fields : ∀ schema spec a b, r.find? name = some schema → spec ∈ schema.fields →
        spec.name ≠ key → readKey es spec.name = some a → readKey fs spec.name = some b →
        Padded r key (.value spec) a b) :
      Padded r key (.node name) v w
  | shortform {name : String} {vs ws : List Value}
      (form : ∀ schema short, r.find? name = some schema → schema.info.shortform = some short →
        Padded r key (.value short.field) (.list vs) (.list ws)) :
      Padded r key (.node name) (.list vs) (.list ws)
  | member {group : String} {v w : Value} (left : v.isObject = true) (right : w.isObject = true)
      (named : Choice.namedType? v = Choice.namedType? w)
      (tried : ∀ name ∈ Choice.tried (r.choiceMembers group) v, Padded r key (.node name) v w)
      (empty : (r.choiceMembers group).length ≠ 1 →
        Choice.isEmptyRecord v = Choice.isEmptyRecord w) :
      Padded r key (.choice group) v w
  | target {spec : FieldSpec} {name : String} {v w : Value}
      (kind : spec.kind = BuiltinKind.node.tag)
      (declared : spec.info.constraints.target = some name) (node : Padded r key (.node name) v w) :
      Padded r key (.value spec) v w
  | group {spec : FieldSpec} {group : String} {v w : Value}
      (kind : spec.kind = BuiltinKind.choice.tag)
      (declared : spec.info.constraints.choice = some group)
      (choice : Padded r key (.choice group) v w) : Padded r key (.value spec) v w
  | items {info : FieldInfo} {item : FieldSpec} {v w : Value} {vs ws : List Value}
      (kind : info.kind = BuiltinKind.list.tag) (left : v.items? = some vs)
      (right : w.items? = some ws) (length : vs.length = ws.length)
      (items : ∀ (i : Nat) v w, vs[i]? = some v → ws[i]? = some w →
        Padded r key (.value item) v w) :
      Padded r key (.value (.list info item)) v w
  | entries {info : FieldInfo} {part value : FieldSpec} {v w : Value} {es fs : Entries Value}
      (kind : info.kind = BuiltinKind.mapping.tag) (left : v.entries? = some es)
      (right : w.entries? = some fs) (keys : es.map Prod.fst = fs.map Prod.fst)
      (values : ∀ (i : Nat) e f, es[i]? = some e → fs[i]? = some f →
        Padded r key (.value value) e.2 f.2) :
      Padded r key (.value (.mapping info part value)) v w
  | form {info : FieldInfo} {primitive complex : FieldSpec} {v w : Value}
      (kind : info.kind = BuiltinKind.either.tag) (value : Padded r key (.value complex) v w) :
      Padded r key (.value (.either info primitive complex)) v w
  | scalar {spec : FieldSpec} {k : BuiltinKind} {v w : Value} (kind : spec.kind = k.tag)
      (flat : k.isNested = false) (left : v.isObject = true) (right : w.isObject = true)
      (verdict : k.verdict spec.info.constraints v = k.verdict spec.info.constraints w) :
      Padded r key (.value spec) v w
  | unlisted {info : FieldInfo} {item : FieldSpec} {v w : Value} {es fs : Entries Value}
      (kind : info.kind = BuiltinKind.list.tag) (left : v.entries? = some es)
      (right : w.entries? = some fs) : Padded r key (.value (.list info item)) v w
  | unmapped {info : FieldInfo} {part value : FieldSpec} {vs ws : List Value}
      (kind : info.kind = BuiltinKind.mapping.tag) :
      Padded r key (.value (.mapping info part value)) (.list vs) (.list ws)

namespace Value

variable {v : Value}

theorem isObject_of_entries? {es : Entries Value} (h : v.entries? = some es) :
    v.isObject = true := by
  cases v <;> first | rfl | cases h

theorem isObject_of_items? {vs : List Value} (h : v.items? = some vs) : v.isObject = true := by
  cases v <;> first | rfl | cases h

theorem items?_of_entries? {es : Entries Value} (h : v.entries? = some es) : v.items? = none := by
  cases v <;> first | rfl | cases h

theorem isNull_of_isObject (h : v.isObject = true) : v.isNull = false := by
  cases v <;> first | rfl | cases h

theorem isUndefined_of_isObject (h : v.isObject = true) : v.isUndefined = false := by
  cases v <;> first | rfl | cases h

theorem isPrimitive_of_isObject (h : v.isObject = true) : v.isPrimitive = false := by
  cases v <;> first | rfl | cases h

theorem same_text_of_isObject (h : v.isObject = true) (s : String) :
    v.same (.text s) = false := by
  cases v <;> first | rfl | cases h

end Value

theorem Choice.tried_eq {v w : Value} (named : namedType? v = namedType? w)
    (members : List (String × String)) : tried members v = tried members w := by
  unfold tried
  rw [named]

namespace Padded

variable {r : Registry} {key : String} {p : Position} {v w : Value}

theorem symm (h : Padded r key p v w) : Padded r key p w v := by
  induction h with
  | refl p v => exact .refl p v
  | record left right others supplied fields ih =>
    refine .record right left (fun other apart open_ => (others other apart open_).symm)
      (fun schema spec found hspec apart => (supplied schema spec found hspec apart).symm) ?_
    exact fun schema spec b a found hspec apart hb ha => ih schema spec a b found hspec apart ha hb
  | shortform form ih => exact .shortform ih
  | member left right named tried empty ih =>
    exact .member right left named.symm (fun name hm => ih name (Choice.tried_eq named _ ▸ hm))
      fun several => (empty several).symm
  | target kind declared node ih => exact .target kind declared ih
  | group kind declared choice ih => exact .group kind declared ih
  | items kind left right length items ih =>
    exact .items kind right left length.symm fun i w v hw hv => ih i v w hv hw
  | entries kind left right keys values ih =>
    exact .entries kind right left keys.symm fun i f e hf he => ih i e f he hf
  | form kind complex ih => exact .form kind ih
  | scalar kind flat left right verdict => exact .scalar kind flat right left verdict.symm
  | unlisted kind left right => exact .unlisted kind right left
  | unmapped kind => exact .unmapped kind

/-- Values that differ at all are objects. -/
theorem eq_or_objects (h : Padded r key p v w) :
    v = w ∨ v.isObject = true ∧ w.isObject = true := by
  induction h with
  | refl => exact .inl rfl
  | record left right =>
    exact .inr ⟨Value.isObject_of_entries? left, Value.isObject_of_entries? right⟩
  | shortform => exact .inr ⟨rfl, rfl⟩
  | member left right => exact .inr ⟨left, right⟩
  | target _ _ _ ih | group _ _ _ ih | form _ _ ih => exact ih
  | items _ left right =>
    exact .inr ⟨Value.isObject_of_items? left, Value.isObject_of_items? right⟩
  | entries _ left right =>
    exact .inr ⟨Value.isObject_of_entries? left, Value.isObject_of_entries? right⟩
  | scalar _ _ left right => exact .inr ⟨left, right⟩
  | unlisted _ left right =>
    exact .inr ⟨Value.isObject_of_entries? left, Value.isObject_of_entries? right⟩
  | unmapped => exact .inr ⟨rfl, rfl⟩

theorem isNull_eq (h : Padded r key p v w) : v.isNull = w.isNull := by
  rcases h.eq_or_objects with rfl | ⟨left, right⟩
  · rfl
  · rw [Value.isNull_of_isObject left, Value.isNull_of_isObject right]

theorem isUndefined_eq (h : Padded r key p v w) : v.isUndefined = w.isUndefined := by
  rcases h.eq_or_objects with rfl | ⟨left, right⟩
  · rfl
  · rw [Value.isUndefined_of_isObject left, Value.isUndefined_of_isObject right]

theorem isPrimitive_eq (h : Padded r key p v w) : v.isPrimitive = w.isPrimitive := by
  rcases h.eq_or_objects with rfl | ⟨left, right⟩
  · rfl
  · rw [Value.isPrimitive_of_isObject left, Value.isPrimitive_of_isObject right]

theorem same_text_eq (h : Padded r key p v w) (s : String) :
    v.same (.text s) = w.same (.text s) := by
  rcases h.eq_or_objects with rfl | ⟨left, right⟩
  · rfl
  · rw [Value.same_text_of_isObject left, Value.same_text_of_isObject right]

variable {spec : FieldSpec} {k : BuiltinKind} {name group : String}

theorem kind_eq {l : BuiltinKind} (kind : spec.kind = k.tag) (other : spec.kind = l.tag) : k = l :=
  BuiltinKind.tag_injective (kind.symm.trans other)

theorem verdict_eq (kind : spec.kind = k.tag) (flat : k.isNested = false)
    (h : Padded r key (.value spec) v w) :
    k.verdict spec.info.constraints v = k.verdict spec.info.constraints w := by
  have nested : ∀ l : BuiltinKind, l.isNested = true → spec.kind ≠ l.tag := by
    intro l yes other
    obtain rfl := kind_eq kind other
    exact Bool.noConfusion (yes.symm.trans flat)
  cases h with
  | refl => rfl
  | target other => exact absurd other (nested .node rfl)
  | group other => exact absurd other (nested .choice rfl)
  | items other | unlisted other => exact absurd other (nested .list rfl)
  | entries other | unmapped other => exact absurd other (nested .mapping rfl)
  | form other => exact absurd other (nested .either rfl)
  | scalar other _ _ _ verdict =>
    obtain rfl := kind_eq kind other
    exact verdict

theorem node_of_value (kind : spec.kind = BuiltinKind.node.tag)
    (declared : spec.info.constraints.target = some name) (h : Padded r key (.value spec) v w) :
    Padded r key (.node name) v w := by
  cases h with
  | refl => exact .refl _ _
  | target _ other node =>
    cases declared.symm.trans other
    exact node
  | scalar other flat =>
    obtain rfl := kind_eq kind other
    cases flat
  | group other | items other | entries other | form other | unlisted other | unmapped other =>
    cases kind_eq kind other

theorem choice_of_value (kind : spec.kind = BuiltinKind.choice.tag)
    (declared : spec.info.constraints.choice = some group) (h : Padded r key (.value spec) v w) :
    Padded r key (.choice group) v w := by
  cases h with
  | refl => exact .refl _ _
  | group _ other choice =>
    cases declared.symm.trans other
    exact choice
  | scalar other flat =>
    obtain rfl := kind_eq kind other
    cases flat
  | target other | items other | entries other | form other | unlisted other | unmapped other =>
    cases kind_eq kind other

variable {info : FieldInfo} {item part value primitive complex : FieldSpec} {vs : List Value}

theorem items_of_list (kind : (FieldSpec.list info item).kind = BuiltinKind.list.tag)
    (h : Padded r key (.value (.list info item)) v w) :
    Option.Rel (List.Forall₂ (Padded r key (.value item))) v.items? w.items? := by
  cases h with
  | refl => exact optionRel_refl (fun _ => List.forall₂_same.mpr fun v _ => .refl _ v) _
  | items _ left right length items =>
    rw [left, right]
    exact .some (forall₂_iff_getElem?.mpr ⟨length, items⟩)
  | unlisted _ left right =>
    rw [Value.items?_of_entries? left, Value.items?_of_entries? right]
    exact .none
  | scalar other flat =>
    obtain rfl := kind_eq kind other
    cases flat
  | target other | group other => cases kind_eq kind other

theorem entries_of_mapping
    (kind : (FieldSpec.mapping info part value).kind = BuiltinKind.mapping.tag)
    (h : Padded r key (.value (.mapping info part value)) v w) :
    Option.Rel (Entries.Matched (Padded r key (.value value))) v.entries? w.entries? := by
  cases h with
  | refl => exact optionRel_refl (.refl fun v => .refl _ v) _
  | entries _ left right keys values =>
    rw [left, right]
    exact .some (.of_keys_eq keys values)
  | unmapped => exact .none
  | scalar other flat =>
    obtain rfl := kind_eq kind other
    cases flat
  | target other | group other => cases kind_eq kind other

theorem form_of_either
    (kind : (FieldSpec.either info primitive complex).kind = BuiltinKind.either.tag)
    (h : Padded r key (.value (.either info primitive complex)) v w) :
    v.isPrimitive = w.isPrimitive ∧
      Padded r key (.value (if v.isPrimitive then primitive else complex)) v w := by
  refine ⟨h.isPrimitive_eq, ?_⟩
  cases h with
  | refl => exact .refl _ _
  | form _ value =>
    rcases value.eq_or_objects with rfl | ⟨left, -⟩
    · exact .refl _ _
    · rwa [Value.isPrimitive_of_isObject left]
  | scalar other flat =>
    obtain rfl := kind_eq kind other
    cases flat
  | target other | group other => cases kind_eq kind other

variable {schema : Schema}

theorem shortform_of_node (found : r.find? name = some schema) (h : Padded r key (.node name) v w)
    (bare : v.entries? = none) {short : Shortform} (declared : schema.info.shortform = some short) :
    Padded r key (.value short.field) v w := by
  cases h with
  | refl => exact .refl _ _
  | record left => cases bare.symm.trans left
  | shortform form => exact form schema short found declared

theorem choice_alike (h : Padded r key (.choice group) v w) :
    Choice.Alike (Padded r key) (r.choiceMembers group) v w := by
  cases h with
  | refl => exact ⟨optionRel_refl (fun _ => by rfl) _, fun name _ => .refl _ _, fun _ => rfl⟩
  | member left right named tried empty =>
    refine ⟨?_, tried, empty⟩
    rw [named]
    exact optionRel_refl (fun _ => by rfl) _

end Padded

namespace Rules

variable {rules : Rules} {key : String} {schema : Schema}

theorem recordsAlike_refl (schema : Schema) (record : Entries Value) :
    RecordsAlike rules rules (Padded rules.registry key) schema record record where
  field _ _ := ⟨optionRel_refl (.refl _) _, fun _ v _ _ => .refl _ v⟩
  type fits := fits
  keys fits := fits

/-- Records with the key and without it have the same fields and the same type. -/
theorem recordsAlike_of_padded (lenient : rules.unknownFields = .lenient) (untyped : key ≠ "type")
    (undeclared : key ∉ schema.fieldNames) {name : String}
    (found : rules.registry.find? name = some schema) {v w : Value}
    (h : Padded rules.registry key (.node name) v w) :
    Option.Rel (RecordsAlike rules rules (Padded rules.registry key) schema)
      v.entries? w.entries? := by
  cases h with
  | refl => exact optionRel_refl (recordsAlike_refl schema) _
  | shortform => exact .none
  | @record _ _ _ es fs left right others supplied fields =>
    have field : ∀ spec ∈ schema.fields, Option.Rel (Padded rules.registry key (.value spec))
        (readKey es spec.name) (readKey fs spec.name) := by
      intro spec hspec
      have apart : spec.name ≠ key := fun same => undeclared (same ▸ List.mem_map_of_mem hspec)
      exact optionRel_of_isSome (supplied schema spec found hspec apart)
        fun a b => fields schema spec a b found hspec apart
    have type : ∀ t, Option.Rel (fun a b => a.same (.text t) = b.same (.text t))
        (readKey es "type") (readKey fs "type") := by
      intro t
      by_cases declared : "type" ∈ schema.fieldNames
      · obtain ⟨spec, hspec, name⟩ := List.mem_map.mp declared
        exact optionRel_mono (fun _ _ alike => alike.same_text_eq t) (name ▸ field spec hspec)
      · have same := others "type" untyped.symm fun other known => by
          cases found.symm.trans known
          exact declared
        rw [same]
        exact optionRel_refl (fun _ => by rfl) _
    rw [left, right]
    refine .some ⟨fun spec hspec => ⟨field spec hspec, fun _ v _ _ => .refl _ v⟩, ?_, ?_⟩
    · intro fits membership b choice named
      have alike := type membership.type
      rw [named] at alike
      generalize given : readKey es "type" = a at alike
      cases alike with
      | some same => exact same ▸ fits membership _ choice given
    · intro _ strict
      cases lenient.symm.trans strict

theorem padded_likens (lenient : rules.unknownFields = .lenient) (untyped : key ≠ "type")
    (undeclared : ∀ schema ∈ rules.registry.schemas, key ∉ schema.fieldNames) :
    rules.Likens rules (Padded rules.registry key) where
  kinds := rfl
  found _ := rfl
  maxDepth := rfl
  unknownFields strict := strict
  left _ := .refl _ _
  isNull := Padded.isNull_eq
  isUndefined := Padded.isUndefined_eq
  verdict := Padded.verdict_eq
  target := Padded.node_of_value
  group := Padded.choice_of_value
  items := Padded.items_of_list
  keys _ _ _ _ _ := .refl _ _
  entries := Padded.entries_of_mapping
  form := Padded.form_of_either
  records found :=
    recordsAlike_of_padded lenient untyped (undeclared _ (List.mem_of_find?_eq_some found)) found
  shortform found alike bare declared := alike.shortform_of_node found bare declared
  expanded _ _ _ _ _ := recordsAlike_refl _ _

theorem padded_agree (lenient : rules.unknownFields = .lenient) (untyped : key ≠ "type")
    (undeclared : ∀ schema ∈ rules.registry.schemas, key ∉ schema.fieldNames) :
    rules.Agree rules (Padded rules.registry key) where
  forth := padded_likens lenient untyped undeclared
  back := padded_likens lenient untyped undeclared
  symm := .symm
  members _ := .refl _
  typed _ _ := rfl
  choice := Padded.choice_alike

end Rules

theorem Validation.readKey_cons_of_ne {key other : String} (apart : other ≠ key) (v : Value)
    (es : Entries Value) : readKey ((key, v) :: es) other = readKey es other := by
  have miss : (other == key) = false := beq_eq_false_iff_ne.mpr apart
  simp only [readKey, List.lookup_cons, miss]

theorem Validation.readKey_cons_self (key : String) (v : Value) (es : Entries Value) :
    readKey ((key, v) :: es) key = if v.isUndefined then none else some v := by
  cases defined : v.isUndefined <;> simp [readKey, defined]

namespace Padded

variable {r : Registry} {key : String} {v w : Value} {es fs : Entries Value}

/-- A record that stands as a node may gain, lose or change what it holds under the key. -/
theorem node_of_others {name : String} (left : v.entries? = some es) (right : w.entries? = some fs)
    (others : ∀ other, other ≠ key → readKey es other = readKey fs other) :
    Padded r key (.node name) v w := by
  refine .record left right (fun other apart _ => others other apart)
    (fun schema spec _ _ apart => by rw [others spec.name apart]) ?_
  intro schema spec a b _ _ apart ha hb
  have same : a = b := by simpa [others spec.name apart, hb] using ha.symm
  exact same ▸ .refl _ a

/-- The value of a field may differ as well, as the field allows. -/
theorem node_of_field {schema : Schema} {spec : FieldSpec} {name : String} {x a b : Value}
    (found : r.find? name = some schema) (declared : spec ∈ schema.fields)
    (only : ∀ other ∈ schema.fields, other.name = spec.name → other = spec)
    (apart : spec.name ≠ key) (left : v.entries? = some ((spec.name, a) :: es))
    (right : w.entries? = some ((key, x) :: (spec.name, b) :: es))
    (field : Padded r key (.value spec) a b) : Padded r key (.node name) v w := by
  have others : ∀ other, other ≠ key → other ≠ spec.name →
      readKey ((spec.name, a) :: es) other = readKey ((key, x) :: (spec.name, b) :: es) other := by
    intro other first second
    rw [readKey_cons_of_ne first, readKey_cons_of_ne second, readKey_cons_of_ne second]
  refine .record left right (fun other first open_ => others other first ?_) ?_ ?_
  · rintro rfl
    exact open_ schema found (List.mem_map_of_mem declared)
  · intro schema' other found' hother first
    by_cases same : other.name = spec.name
    · rw [same, readKey_cons_of_ne apart, readKey_cons_self, readKey_cons_self,
        field.isUndefined_eq]
      cases b.isUndefined <;> rfl
    · rw [others other.name first same]
  · intro schema' other c d found' hother first hc hd
    cases found.symm.trans found'
    by_cases same : other.name = spec.name
    · obtain rfl := only other hother same
      rw [readKey_cons_self] at hc
      rw [readKey_cons_of_ne apart, readKey_cons_self] at hd
      cases (Option.ite_none_left_eq_some.mp hc).2
      cases (Option.ite_none_left_eq_some.mp hd).2
      exact field
    · rw [others other.name first same, hd] at hc
      cases hc
      exact .refl _ _

/-- So may a record of a choice, unless it is empty before or after. -/
theorem choice_of_others {group : String} (untyped : key ≠ "type") (left : v.entries? = some es)
    (right : w.entries? = some fs) (filled : es ≠ [] ∧ fs ≠ [])
    (others : ∀ other, other ≠ key → readKey es other = readKey fs other) :
    Padded r key (.choice group) v w := by
  refine .member (Value.isObject_of_entries? left) (Value.isObject_of_entries? right) ?_
    (fun name _ => node_of_others left right others) fun _ => ?_
  · rw [Choice.namedType?_eq, Choice.namedType?_eq, left, right]
    exact others "type" untyped.symm
  · obtain ⟨e, es, rfl⟩ := List.exists_cons_of_ne_nil filled.1
    obtain ⟨f, fs, rfl⟩ := List.exists_cons_of_ne_nil filled.2
    simp only [Choice.isEmptyRecord, left, right]

end Padded

/-- Under lenient rules, what records that stand as nodes hold under a key that no schema declares
changes neither whether a value is valid nor the node that it is valid as. -/
theorem Registry.valid_iff_of_padded {r : Registry}
    (builtin : r.Every (FieldSpec.Builtin r.kinds)) (fixed : r.Every FieldSpec.FixedPattern)
    (steady : r.Every FieldSpec.PureDefault) {key : String} (untyped : key ≠ "type")
    (undeclared : ∀ s ∈ r.schemas, key ∉ s.fieldNames) {raw raw' : Value} {schema : String}
    (padded : Padded r key (.node schema) raw raw') {o : ValidateOptions}
    (lenient : o.unknownFields = .lenient) {memory memory' : Memory}
    {result result' : ValidationResult}
    (first : (r.validate memory raw schema o).result = .ok result)
    (second : (r.validate memory' raw' schema o).result = .ok result') :
    ∀ n, result = .valid n ↔ result' = .valid n := by
  have plain : r.Every (FieldSpec.Memoryless r.kinds) := fun s hs top ht part hp =>
    ⟨builtin s hs top ht part hp, fixed s hs top ht part hp, steady s hs top ht part hp⟩
  have agree : (o.rules r).Agree (o.rules r) (Padded r key) :=
    Rules.padded_agree lenient untyped undeclared
  exact valid_iff_of_agree agree plain plain padded first second

namespace Depot

def label : Schema where
  name := "label"
  fields := [
    .leaf { name := "mark", kind := "string", required := false },
    .leaf {
      name := "answers", kind := "choice", required := false
      constraints := { choice := some "mail" } }]
  info := {}

def letter : Schema where
  name := "letter"
  fields := [.leaf {
    name := "label", kind := "node", required := false, constraints := { target := some "label" } }]
  info := { choice := some ⟨"mail", "letter"⟩ }

def box : Schema where
  name := "box"
  fields := [.mapping { name := "label", kind := "mapping" }
    (.leaf { name := "mark", kind := "string" }) (.leaf { name := "count", kind := "integer" })]
  info := { choice := some ⟨"mail", "box"⟩ }

def depot : Schema where
  name := "depot"
  fields := [.leaf { name := "item", kind := "choice", constraints := { choice := some "mail" } }]
  info := {}

/-- A depot for mail. The label of a letter is a node, which may hold the mail that it answers; the
label of a box is a mapping. -/
def registry : Registry where
  kinds := .builtin
  schemas := [label, letter, box, depot]
  choices := [("mail", [("letter", "letter"), ("box", "box")])]
  frozen := true

theorem registry_made : registry.Made := by
  have labels := Registry.Made.schema (.empty .builtin) (show Registry.register? _ label.name
    (.specs label.fields) label.info = .ok (_, label) from rfl)
  have letters := Registry.Made.schema labels (show Registry.register? _ letter.name
    (.specs letter.fields) letter.info = .ok (_, letter) from rfl)
  have boxes := Registry.Made.schema letters (show Registry.register? _ box.name
    (.specs box.fields) box.info = .ok (_, box) from rfl)
  have depots := Registry.Made.schema boxes (show Registry.register? _ depot.name
    (.specs depot.fields) depot.info = .ok (_, depot) from rfl)
  exact .frozen depots rfl rfl

theorem registry_builtin : registry.Every (FieldSpec.Builtin registry.kinds) := by
  simp only [Registry.Every, FieldSpec.Every, registry, label, letter, box, depot,
    Schema.allFields, FieldSpec.walk, List.forall_mem_cons, Option.map_none, Option.toList_none,
    List.append_nil, List.not_mem_nil, false_imp_iff, implies_true, and_true, List.cons_append,
    List.nil_append]
  exact ⟨⟨⟨.string, rfl, rfl⟩, ⟨.choice, rfl, rfl⟩⟩, ⟨.node, rfl, rfl⟩,
    ⟨⟨.mapping, rfl, rfl⟩, ⟨.string, rfl, rfl⟩, ⟨.integer, rfl, rfl⟩⟩, ⟨.choice, rfl, rfl⟩⟩

theorem registry_plain : registry.Every fun s => s.FixedPattern ∧ s.PureDefault := by
  simp [Registry.Every, FieldSpec.Every, registry, label, letter, box, depot, Schema.allFields,
    FieldSpec.walk, FieldSpec.FixedPattern, FieldSpec.PureDefault, FieldSpec.info]

theorem stamp_undeclared : ∀ s ∈ registry.schemas, "stamp" ∉ s.fieldNames := by
  simp [registry, label, letter, box, depot, Schema.fieldNames, FieldSpec.name, FieldSpec.info]

def stamp : String × Value := ("stamp", .text "red")

/-- A depot that holds a record of the entries. -/
def holding (es : Entries Value) : Value := .record [("item", .record es true)] true

/-- A depot that holds a letter with these values. -/
def stored (values : Entries Value) : Node where
  schema := "depot"
  values := [("item", .node ⟨"letter", values, [], some "letter", []⟩)]
  defaulted := []
  choiceType := none
  compactable := []

set_option maxRecDepth 4000 in
/-- A stamp is noticed where a record without entries asks for a type, and where the record that it
is put on may be the label of a letter or that of a box. -/
theorem stamp_noticed :
    registry.Made ∧ (∀ s ∈ registry.schemas, "stamp" ∉ s.fieldNames) ∧
      (∃ issues, (registry.validate [] (holding []) "depot" {}).result =
        .ok (.invalid issues)) ∧
      (registry.validate [] (holding [stamp]) "depot" {}).result = .ok (.valid (stored [])) ∧
      (∃ issues, (registry.validate [] (holding [("label", .record [] true)]) "depot" {}).result =
        .ok (.invalid issues)) ∧
      (registry.validate [] (holding [("label", .record [stamp] true)]) "depot" {}).result =
        .ok (.valid (stored [("label", .node ⟨"label", [], [], none, []⟩)])) :=
  ⟨registry_made, stamp_undeclared, ⟨_, rfl⟩, rfl, ⟨_, rfl⟩, rfl⟩

/-- A letter that answers another one, which does not name its type, with these entries in the
record of each and of the depot. -/
def posted (es : Entries Value) : Value :=
  .record (es ++ [("item", .record (es ++ [
    ("label", .record (es ++ [
      ("answers", .record (es ++ [("label", .record [("mark", .text "A")] true)]) true)]) true),
    ("type", .text "letter")]) true)]) true

theorem posted_padded : Padded registry "stamp" (.node "depot") (posted []) (posted [stamp]) := by
  have answered : Padded registry "stamp" (.choice "mail")
      (.record [("label", .record [("mark", .text "A")] true)] true)
      (.record [stamp, ("label", .record [("mark", .text "A")] true)] true) :=
    .choice_of_others (by decide) rfl rfl ⟨nofun, nofun⟩ fun other apart =>
      (readKey_cons_of_ne apart _ _).symm
  have label := Padded.node_of_field (v := .record [("answers", _)] true)
    (w := .record [stamp, ("answers", _)] true)
    (show registry.find? "label" = some label from rfl) (.tail _ (.head _))
    (by simp [label, FieldSpec.name, FieldSpec.info]) (by decide) rfl rfl
    (.group rfl rfl answered)
  have item := Padded.node_of_field (v := .record [("label", _), ("type", .text "letter")] true)
    (w := .record [stamp, ("label", _), ("type", .text "letter")] true)
    (show registry.find? "letter" = some letter from rfl) (.head _) (by simp [letter])
    (by decide) rfl rfl (.target rfl rfl label)
  refine .node_of_field rfl (.head _) (by simp [depot]) (by decide) rfl rfl (.group rfl rfl ?_)
  refine .member rfl rfl rfl (fun name hm => ?_) fun _ => rfl
  obtain rfl := List.mem_singleton.mp (show name ∈ ["letter"] from hm)
  exact item

/-- The depot with the two letters, without a stamp. -/
def kept : Node := stored [("label", .node ⟨"label", [("answers", .node ⟨"letter",
  [("label", .node ⟨"label", [("mark", .text "A")], [], none, []⟩)], [], some "letter", []⟩)],
  [], none, []⟩)]

set_option maxRecDepth 4000 in
/-- Letters that are stamped everywhere are the letters without a stamp. -/
theorem stamped_kept : Padded registry "stamp" (.node "depot") (posted []) (posted [stamp]) ∧
    (registry.validate [] (posted []) "depot" {}).result = .ok (.valid kept) ∧
      ∃ result, (registry.validate [] (posted [stamp]) "depot" {}).result = .ok result ∧
        ∀ n, ValidationResult.valid kept = .valid n ↔ result = .valid n := by
  have first : (registry.validate [] (posted []) "depot" {}).result = .ok (.valid kept) := rfl
  have second : (registry.validate [] (posted [stamp]) "depot" {}).result = .ok (.valid kept) := rfl
  exact ⟨posted_padded, first, _, second, Registry.valid_iff_of_padded registry_builtin
    (registry_plain.mono fun _ h => h.1) (registry_plain.mono fun _ h => h.2) (by decide)
    stamp_undeclared posted_padded rfl first second⟩

end Depot

end ShapedTree
