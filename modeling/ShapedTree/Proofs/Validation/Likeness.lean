import ShapedTree.Proofs.Kind.Verdict
import ShapedTree.Proofs.Record.Lookup
import ShapedTree.Proofs.Validation.Acceptance
import ShapedTree.Proofs.Value.Reordering

namespace ShapedTree

/-- Where a raw value stands. -/
inductive Position where
  | value (spec : FieldSpec)
  | node (schema : String)
  | choice (group : String)

/-- Which raw values are alike, position by position. -/
abbrev Likeness := Position → Value → Value → Prop

/-- A default makes a value, at some time or of some arguments. -/
def FieldDefault.Makes (v : Value) : FieldDefault → Prop
  | .constant u => v = u
  | .factory made => made = .ok v
  | .counting _ make => ∃ count, make count = .ok v
  | .computed generate => ∃ args, generate args = .ok v

namespace Choice

/-- The members that a value is checked as: the one whose type it names, or all of them. -/
def tried (members : List (String × String)) (raw : Value) : List String :=
  match namedType? raw with
  | some type => (member? members type).toList
  | none => members.map Prod.snd

theorem tried_of_untyped {members : List (String × String)} {raw : Value}
    (untyped : namedType? raw = none) : tried members raw = members.map Prod.snd := by
  simp [tried, untyped]

/-- Values of a choice that are alike as every member that they are checked as. -/
structure Alike (like : Likeness) (members : List (String × String)) (raw raw' : Value) :
    Prop where
  named : Option.Rel (fun type type' => member? members type = member? members type')
    (namedType? raw) (namedType? raw')
  tried : ∀ name ∈ tried members raw, like (.node name) raw raw'
  empty : members.length ≠ 1 → isEmptyRecord raw = isEmptyRecord raw'

theorem member?_eq {members members' : List (String × String)}
    (typed : ∀ type, members.lookup type = members'.lookup type) :
    member? members = member? members' := by
  funext type
  cases type with
  | text t => exact typed t
  | _ => rfl

/-- The order of the members does not matter. -/
theorem Alike.perm {like : Likeness} {members members' : List (String × String)} {raw raw' : Value}
    (h : Alike like members raw raw') (perm : members.Perm members')
    (typed : ∀ type, members.lookup type = members'.lookup type) :
    Alike like members' raw raw' where
  named := member?_eq typed ▸ h.named
  tried name hm := by
    refine h.tried name ?_
    unfold Choice.tried at hm ⊢
    split at hm
    next => rwa [member?_eq typed]
    next => exact (perm.map Prod.snd).mem_iff.mpr hm
  empty several := h.empty (perm.length_eq ▸ several)

end Choice

namespace Validation

open Run in
/-- What is produced for a static default is among what the default makes. -/
theorem produce_returns (d : FieldDefault) :
    Run.Returns (produce d) fun answer => ∀ v, answer = some v → d.Makes v := by
  cases d with
  | constant u =>
    refine .pure ?_
    rintro v ⟨⟩
    rfl
  | factory made =>
    refine (Returns.lift made).bind_of fun u same => .pure ?_
    rintro v ⟨⟩
    exact same
  | counting cell make =>
    refine .bind fun s => .bind fun _ => ?_
    refine (Returns.lift (make (s.memory.read cell))).bind_of fun u same => .pure ?_
    rintro v ⟨⟩
    exact ⟨_, same⟩
  | computed generate => exact .pure nofun

/-- Two records are alike in a field, and whatever its default makes is alike with itself. -/
structure FieldAlike (like : Likeness) (record record' : Entries Value) (spec : FieldSpec) :
    Prop where
  given : Option.Rel (like (.value spec)) (readKey record spec.name) (readKey record' spec.name)
  made : ∀ d v, spec.info.default? = some d → d.Makes v → like (.value spec) v v

/-- Records of a schema that are alike in every field. What is right with the type and the keys of
the first one is right with those of the second one. -/
structure RecordsAlike (rules rules' : Rules) (like : Likeness) (schema : Schema)
    (record record' : Entries Value) : Prop where
  field : ∀ spec ∈ schema.fields, FieldAlike like record record' spec
  type : TypeFits schema record → TypeFits schema record'
  keys : KeysFit rules schema record → KeysFit rules' schema record'

end Validation

namespace Rules

open Validation

/-- Under two sets of rules, values that are alike have parts that are alike, and kinds without
parts do not tell them apart. -/
structure Likens (rules rules' : Rules) (like : Likeness) : Prop where
  kinds : rules.registry.kinds = rules'.registry.kinds
  found : ∀ name, rules.registry.find? name = rules'.registry.find? name
  maxDepth : rules.maxDepth = rules'.maxDepth
  unknownFields : rules'.unknownFields = .strict → rules.unknownFields = .strict
  left : ∀ {p v w}, like p v w → like p v v
  isNull : ∀ {spec v w}, like (.value spec) v w → v.isNull = w.isNull
  isUndefined : ∀ {spec v w}, like (.value spec) v w → v.isUndefined = w.isUndefined
  verdict : ∀ {spec : FieldSpec} {k : BuiltinKind} {v w}, spec.kind = k.tag →
    k.isNested = false → like (.value spec) v w →
    k.verdict spec.info.constraints v = k.verdict spec.info.constraints w
  target : ∀ {spec : FieldSpec} {name v w}, spec.kind = BuiltinKind.node.tag →
    spec.info.constraints.target = some name → like (.value spec) v w → like (.node name) v w
  group : ∀ {spec : FieldSpec} {group v w}, spec.kind = BuiltinKind.choice.tag →
    spec.info.constraints.choice = some group → like (.value spec) v w →
    like (.choice group) v w
  items : ∀ {info item v w}, (FieldSpec.list info item).kind = BuiltinKind.list.tag →
    like (.value (.list info item)) v w →
    Option.Rel (List.Forall₂ (like (.value item))) v.items? w.items?
  keys : ∀ {info key value v w es},
    (FieldSpec.mapping info key value).kind = BuiltinKind.mapping.tag →
    like (.value (.mapping info key value)) v w → v.entries? = some es →
    ∀ e ∈ es, like (.value key) (.text e.1) (.text e.1)
  entries : ∀ {info key value v w},
    (FieldSpec.mapping info key value).kind = BuiltinKind.mapping.tag →
    like (.value (.mapping info key value)) v w →
    Option.Rel (Entries.Matched (like (.value value))) v.entries? w.entries?
  form : ∀ {info primitive complex v w},
    (FieldSpec.either info primitive complex).kind = BuiltinKind.either.tag →
    like (.value (.either info primitive complex)) v w →
    v.isPrimitive = w.isPrimitive ∧
      like (.value (if v.isPrimitive then primitive else complex)) v w
  records : ∀ {name schema v w}, rules.registry.find? name = some schema →
    like (.node name) v w →
    Option.Rel (RecordsAlike rules rules' like schema) v.entries? w.entries?
  shortform : ∀ {name schema short v w}, rules.registry.find? name = some schema →
    like (.node name) v w → v.entries? = none → schema.info.shortform = some short →
    like (.value short.field) v w
  expanded : ∀ {name schema short v w u es}, rules.registry.find? name = some schema →
    like (.node name) v w → v.entries? = none → schema.info.shortform = some short →
    short.expand u = .ok es → RecordsAlike rules rules' like schema es es

theorem Likens.startLeft {rules rules' : Rules} {like : Likeness} (h : rules.Likens rules' like)
    {p : Position} {o o' : Option Value} (alike : Option.Rel (like p) o o') :
    Option.Rel (like p) o o := by
  cases alike with
  | none => exact .none
  | some alike => exact .some (h.left alike)

theorem Likens.recordLeft {rules rules' : Rules} {like : Likeness} (h : rules.Likens rules' like)
    {schema : Schema} {record record' : Entries Value}
    (alike : RecordsAlike rules rules' like schema record record') :
    RecordsAlike rules rules' like schema record record where
  field spec hspec := ⟨h.startLeft (alike.field spec hspec).given, (alike.field spec hspec).made⟩
  type fits := fits
  keys fits strict := fits (h.unknownFields strict)

/-- Either set of rules takes for alike what the other one does, in the choices as well. -/
structure Agree (rules rules' : Rules) (like : Likeness) : Prop where
  forth : rules.Likens rules' like
  back : rules'.Likens rules like
  symm : ∀ {p v w}, like p v w → like p w v
  members : ∀ group,
    (rules.registry.choiceMembers group).Perm (rules'.registry.choiceMembers group)
  typed : ∀ group type, (rules.registry.choiceMembers group).lookup type =
    (rules'.registry.choiceMembers group).lookup type
  choice : ∀ {group v w}, like (.choice group) v w →
    Choice.Alike like (rules.registry.choiceMembers group) v w

theorem Agree.swap {rules rules' : Rules} {like : Likeness} (h : rules.Agree rules' like) :
    rules'.Agree rules like where
  forth := h.back
  back := h.forth
  symm := h.symm
  members group := (h.members group).symm
  typed group type := (h.typed group type).symm
  choice alike := (h.choice alike).perm (h.members _) (h.typed _)

end Rules

end ShapedTree
