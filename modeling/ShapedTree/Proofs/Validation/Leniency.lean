import ShapedTree.Proofs.Validation.Inference
import ShapedTree.Proofs.Validation.NodeEcho

namespace ShapedTree

open Run ShapedTree.Computation Validation

/-- The same rules, but keys that a schema does not declare are ignored. -/
def Rules.relaxed (rules : Rules) : Rules := { rules with unknownFields := .lenient }

/-- The values that may stand at a position while `raw` is validated as a node of the schema `root`:
what `raw` holds, and what defaults and shortforms make. -/
inductive Stands (r : Registry) (root : String) (raw : Value) : Position → Value → Prop
  | root : Stands r root raw (.node root) raw
  | field {name : String} {schema : Schema} {spec : FieldSpec} {v w : Value} {es : Entries Value}
      (node : Stands r root raw (.node name) v) (found : r.find? name = some schema)
      (declared : spec ∈ schema.fields) (shape : v.entries? = some es)
      (held : readKey es spec.name = some w) : Stands r root raw (.value spec) w
  | made {name : String} {schema : Schema} {spec : FieldSpec} {v w : Value} {d : FieldDefault}
      (node : Stands r root raw (.node name) v) (found : r.find? name = some schema)
      (declared : spec ∈ schema.fields) (default : spec.info.default? = some d)
      (makes : d.Makes w) : Stands r root raw (.value spec) w
  | shortform {name : String} {schema : Schema} {short : Shortform} {v : Value}
      (node : Stands r root raw (.node name) v) (found : r.find? name = some schema)
      (bare : v.entries? = none) (form : schema.info.shortform = some short) :
      Stands r root raw (.value short.field) v
  | expanded {name : String} {schema : Schema} {short : Shortform} {spec : FieldSpec}
      {v u w : Value} {es : Entries Value} (node : Stands r root raw (.node name) v)
      (found : r.find? name = some schema) (bare : v.entries? = none)
      (form : schema.info.shortform = some short) (expands : short.expand u = .ok es)
      (declared : spec ∈ schema.fields) (held : readKey es spec.name = some w) :
      Stands r root raw (.value spec) w
  | target {spec : FieldSpec} {name : String} {v : Value}
      (value : Stands r root raw (.value spec) v) (kind : spec.kind = BuiltinKind.node.tag)
      (declared : spec.info.constraints.target = some name) : Stands r root raw (.node name) v
  | group {spec : FieldSpec} {group : String} {v : Value}
      (value : Stands r root raw (.value spec) v) (kind : spec.kind = BuiltinKind.choice.tag)
      (declared : spec.info.constraints.choice = some group) : Stands r root raw (.choice group) v
  | member {group name : String} {v : Value} (choice : Stands r root raw (.choice group) v)
      (tried : name ∈ Choice.tried (r.choiceMembers group) v) : Stands r root raw (.node name) v
  | item {info : FieldInfo} {item : FieldSpec} {v w : Value} {vs : List Value}
      (value : Stands r root raw (.value (.list info item)) v) (shape : v.items? = some vs)
      (held : w ∈ vs) : Stands r root raw (.value item) w
  | key {info : FieldInfo} {key part : FieldSpec} {v : Value} {es : Entries Value}
      {e : String × Value} (value : Stands r root raw (.value (.mapping info key part)) v)
      (shape : v.entries? = some es) (held : e ∈ es) : Stands r root raw (.value key) (.text e.1)
  | entry {info : FieldInfo} {key part : FieldSpec} {v : Value} {es : Entries Value}
      {e : String × Value} (value : Stands r root raw (.value (.mapping info key part)) v)
      (shape : v.entries? = some es) (held : e ∈ es) : Stands r root raw (.value part) e.2
  | form {info : FieldInfo} {primitive complex : FieldSpec} {v : Value}
      (value : Stands r root raw (.value (.either info primitive complex)) v) :
      Stands r root raw (.value (if v.isPrimitive then primitive else complex)) v

/-- A value that stands at a position is alike with itself there. -/
def Standing (r : Registry) (root : String) (raw : Value) : Likeness :=
  fun p v w => v = w ∧ Stands r root raw p v

/-- Where a value without a type stands in a choice and fits one member alone, it fits no other
member under relaxed rules. -/
def Rules.Decided (rules : Rules) (root : String) (raw : Value) : Prop :=
  ∀ group v, Stands rules.registry root raw (.choice group) v → Choice.namedType? v = none →
    Choice.isEmptyRecord v = false → ∀ levels place name found,
      Choice.Sole rules (checkNodeAt rules levels) v group place name found →
      ∀ other ∈ Choice.candidates rules group, other ≠ name →
        Choice.fit? (checkNodeAt rules.relaxed levels) v place other = none

namespace Rules

variable {rules : Rules} {root : String} {raw v w : Value} {name : String} {schema : Schema}

/-- The fields of a record that a node is made of stand where they are declared. -/
theorem recordsAlike_of_stands (node : Stands rules.registry root raw (.node name) v)
    (found : rules.registry.find? name = some schema) {es : Entries Value}
    (held : ∀ spec ∈ schema.fields, ∀ w, readKey es spec.name = some w →
      Stands rules.registry root raw (.value spec) w) :
    RecordsAlike rules rules.relaxed (Standing rules.registry root raw) schema es es where
  field spec hspec := by
    refine ⟨?_, fun d w default makes => ⟨rfl, .made node found hspec default makes⟩⟩
    cases given : readKey es spec.name with
    | none => exact .none
    | some w => exact .some ⟨rfl, held spec hspec w given⟩
  type fits := fits
  keys _ strict := by cases strict

theorem standing_likens (rules : Rules) (root : String) (raw : Value) :
    rules.Likens rules.relaxed (Standing rules.registry root raw) where
  kinds := rfl
  found _ := rfl
  maxDepth := rfl
  unknownFields strict := by cases strict
  left alike := ⟨rfl, alike.2⟩
  isNull alike := by rw [alike.1]
  isUndefined alike := by rw [alike.1]
  verdict _ _ alike := by rw [alike.1]
  target kind declared alike := ⟨alike.1, .target alike.2 kind declared⟩
  group kind declared alike := ⟨alike.1, .group alike.2 kind declared⟩
  items := by
    rintro info item v _ - ⟨rfl, value⟩
    cases shape : v.items? with
    | none => exact .none
    | some vs =>
      exact .some (List.forall₂_same.mpr fun w held => ⟨rfl, .item value shape held⟩)
  keys _ alike shape e he := ⟨rfl, .key alike.2 shape he⟩
  entries := by
    rintro info key part v _ - ⟨rfl, value⟩
    cases shape : v.entries? with
    | none => exact .none
    | some es =>
      refine .some ⟨es, List.forall₂_same.mpr fun e he => ⟨rfl, rfl, ?_⟩, .refl es⟩
      exact .entry value shape he
  form _ alike := ⟨by rw [alike.1], alike.1, .form alike.2⟩
  records := by
    rintro name schema v _ found ⟨rfl, node⟩
    cases shape : v.entries? with
    | none => exact .none
    | some es =>
      exact .some <| recordsAlike_of_stands node found fun spec hspec w held =>
        .field node found hspec shape held
  shortform found alike bare form := ⟨alike.1, .shortform alike.2 found bare form⟩
  expanded found alike bare form expands := recordsAlike_of_stands alike.2 found
    fun _ hspec _ held => .expanded alike.2 found bare form expands hspec held

end Rules

namespace Choice

variable {rules : Rules} {node : NodeRun} {raw : Value} {place : Place}

/-- Where the tries of all members come to results, each member comes to a result by itself. -/
theorem matching_of_ok (framed : ∀ name, Framed rules (node raw name place) fun _ => True)
    {names : List String} {s t : RunState} {found : List Match}
    (run : matching node raw place names s = (.ok found, t)) :
    found = names.filterMap (fit? node raw place) ∧ (∃ memory, t = { s with memory }) ∧
      ∀ name ∈ names, ∃ answer u, node raw name place {} = (.ok answer, u) := by
  have returns : ∀ name ∈ names, ∃ answer u, node raw name place {} = (.ok answer, u) := by
    induction names generalizing s t found with
    | nil => exact List.forall_mem_nil _
    | cons name rest ih =>
      rw [matching_cons] at run
      obtain ⟨first, s', tried, run⟩ := bind_eq_ok run
      obtain ⟨others, s'', matched, -⟩ := bind_eq_ok run
      obtain ⟨answer, u, alone, -, -⟩ := attempt_eq_ok tried
      obtain ⟨-, u', fresh, -⟩ :=
        framed name #[] #[] { memory := s.memory } {} answer u (.fresh s.memory []) alone
      exact List.forall_mem_cons.mpr ⟨⟨answer, u', fresh⟩, ih matched⟩
  obtain ⟨memory, matched⟩ := matching_eq framed returns s
  cases run.symm.trans matched
  exact ⟨rfl, ⟨memory, rfl⟩, returns⟩

variable {m n : NodeRun} {name : String} {one : Match}

/-- A member that a value fits makes the same node of it in a check that echoes its own one. -/
theorem fit?_echoed (h : Echoed Eq (m raw name place) (n raw name place))
    (returns : ∃ answer u, n raw name place {} = (.ok answer, u))
    (fits : fit? m raw place name = some one) :
    ∃ other, fit? n raw place name = some other ∧ other.node = one.node := by
  obtain ⟨t, run, clean, -⟩ := fit?_eq_some fits
  obtain ⟨answer, u, run'⟩ := returns
  obtain ⟨clean', rfl⟩ := h.agrees (some one.node) ⟨_, t, run, clean⟩ {} answer u rfl run'
  have issues : u.issues = #[] := clean'
  exact ⟨⟨one.node, u.log⟩, by simp [fit?, run', issues], rfl⟩

variable {group : String} {levels : Nat}

/-- Where the member that a value fits alone is the only one that it fits under relaxed rules, the
choice is settled alike. -/
theorem matching_relaxed (made : rules.registry.Made)
    (plain : rules.registry.Every (FieldSpec.Memoryless rules.registry.kinds))
    (h : ∀ name ∈ candidates rules group,
      Echoed Eq (checkNodeAt rules levels raw name place)
        (checkNodeAt rules.relaxed levels raw name place))
    (alone : ∀ name found, Sole rules (checkNodeAt rules levels) raw group place name found →
      ∀ other ∈ candidates rules group, other ≠ name →
        fit? (checkNodeAt rules.relaxed levels) raw place other = none) :
    Echoed SettledAlike
      (matching (checkNodeAt rules levels) raw place (candidates rules group))
      (matching (checkNodeAt rules.relaxed levels) raw place (candidates rules group)) := by
  have distinct : (candidates rules group).Nodup := made.coherent.members group
  have plain' : rules.relaxed.registry.Every
      (FieldSpec.Memoryless rules.relaxed.registry.kinds) := plain
  have framed := fun name => checkNodeAt_framed plain levels raw name place
  have framed' := fun name => checkNodeAt_framed plain' levels raw name place
  refine .of_spotless (P := fun found => found =
    (candidates rules group).filterMap (fit? (checkNodeAt rules levels) raw place)) ?_ ?_
  · intro s found t run
    obtain ⟨fitting, ⟨memory, rfl⟩, -⟩ := matching_of_ok framed run
    exact ⟨⟨List.prefix_refl _, List.prefix_refl _⟩, fun _ => fitting⟩
  · intro found fitting s found' t clean run
    obtain ⟨fitting', ⟨memory, rfl⟩, returns⟩ := matching_of_ok framed' run
    refine ⟨clean, ?_⟩
    rintro one rfl
    obtain ⟨name, sole⟩ := (fitting_eq_singleton_iff distinct).mp fitting.symm
    obtain ⟨other, fits, same⟩ :=
      fit?_echoed (h name sole.member) (returns name sole.member) sole.fits
    have only : (candidates rules group).filterMap
        (fit? (checkNodeAt rules.relaxed levels) raw place) = [other] :=
      (filterMap_eq_singleton_iff distinct).mpr ⟨name, sole.member, fits, alone name one sole⟩
    exact ⟨other, fitting'.trans only, same⟩

variable {root : String} {raw₀ : Value}

theorem check_relaxed (made : rules.registry.Made)
    (plain : rules.registry.Every (FieldSpec.Memoryless rules.registry.kinds))
    (decided : rules.Decided root raw₀)
    (h : NodesEchoed (Standing rules.registry root raw₀) (checkNodeAt rules levels)
      (checkNodeAt rules.relaxed levels)) :
    ChoicesEchoed (Standing rules.registry root raw₀) rules rules.relaxed
      (checkNodeAt rules levels) (checkNodeAt rules.relaxed levels) := by
  rintro raw _ group place ⟨rfl, stands⟩
  have alike : Alike (Standing rules.registry root raw₀) (rules.registry.choiceMembers group) raw
      raw :=
    ⟨optionRel_refl (fun _ => by rfl) _, fun name hm => ⟨rfl, .member stands hm⟩, fun _ => rfl⟩
  refine check_echoed (.refl _) (fun _ => rfl) alike h fun untyped filled => ?_
  refine matching_relaxed made plain (fun name hm => ?_) fun name found sole =>
    decided group raw stands untyped filled levels place name found sole
  exact h raw raw name place (alike.tried name ((tried_of_untyped untyped).symm ▸ hm))

end Choice

namespace Validation

variable {rules : Rules} {root : String} {raw : Value}

/-- What is valid in a check of a node is valid, as the same node, in the check under relaxed rules,
where these leave no choice ambiguous. -/
theorem checkNodeAt_relaxed (made : rules.registry.Made)
    (plain : rules.registry.Every (FieldSpec.Memoryless rules.registry.kinds))
    (decided : rules.Decided root raw) (levels : Nat) :
    NodesEchoed (Standing rules.registry root raw) (checkNodeAt rules levels)
      (checkNodeAt rules.relaxed levels) := by
  induction levels with
  | zero => exact fun _ _ _ _ _ => .throw
  | succ levels ih =>
    exact checkNodeAt_succ_echoed (rules.standing_likens root raw) plain ih
      (Choice.check_relaxed made plain decided ih)

end Validation

namespace Validation

variable {rules : Rules} {value : ValueRun} {schema : Schema} {raw : Value} {place : Place}

theorem expanded_bare (bare : raw.entries? = none) (formless : schema.info.shortform = none) :
    Ensures (expand rules value raw schema place >>= fun
      | none => pure none
      | some record => checkFields rules value schema record place) fun _ => False := by
  have refused : Ensures (expand rules value raw schema place) fun _ => False := by
    unfold expand
    simp only [bare, formless]
    exact Ensures.report.bind fun _ => .pure fun no => no
  have nothing : Run.Returns (expand rules value raw schema place) (· = none) := by
    unfold expand
    simp only [bare, formless]
    exact .bind fun _ => .pure rfl
  refine refused.bind_returns nothing ?_
  rintro _ rfl
  exact .pure id

/-- A value that is not a record is nothing to a schema without a shortform. -/
theorem checkNodeWith_bare {name : String} (found : rules.registry.find? name = some schema)
    (bare : raw.entries? = none) (formless : schema.info.shortform = none) :
    Ensures (checkNodeWith rules value raw name place) fun _ => False := by
  unfold checkNodeWith
  refine Ensures.halted.bind fun stopped => ?_
  cases stopped with
  | true => exact .pure fun no => by cases no
  | false =>
    simp only [Bool.false_eq_true, if_false, found]
    split
    next => exact Ensures.report.bind fun _ => .pure fun no => no.elim
    next =>
      have expanded := @expanded_bare rules value schema raw place bare formless
      split
      next =>
        exact Ensures.bind (P := fun _ => False) .throw fun _ => expanded.mono fun _ no _ => no.elim
      next => exact expanded.mono fun _ no _ => no

end Validation

theorem Choice.fit?_bare {rules : Rules} {schema : Schema} {raw : Value} {name : String}
    {place : Place} (found : rules.registry.find? name = some schema) (bare : raw.entries? = none)
    (formless : schema.info.shortform = none) (levels : Nat) :
    fit? (checkNodeAt rules levels) raw place name = none := by
  cases levels with
  | zero => rfl
  | succ levels =>
    refine Option.eq_none_iff_forall_ne_some.mpr fun one fits => ?_
    obtain ⟨t, run, clean, -⟩ := fit?_eq_some fits
    exact (checkNodeWith_bare found bare formless _ _ _ run).2 clean

namespace Drawings

def radius : FieldSpec := .leaf { name := "radius", kind := "integer" }

def circle : Schema where
  name := "circle"
  fields := [radius]
  info := {
    choice := some ⟨"figure", "circle"⟩
    shortform := some
      ⟨.leaf { name := "circle", kind := "integer" }, Shortform.intoField [] "radius"⟩ }

def ring : Schema where
  name := "ring"
  fields := [radius, .leaf { name := "hole", kind := "integer" }]
  info := { choice := some ⟨"figure", "ring"⟩ }

def page : Schema where
  name := "page"
  fields := []
  info := { requires := some ["ink"] }

def dot : Schema where
  name := "dot"
  fields := [radius]
  info := { choice := some ⟨"mark", "dot"⟩ }

def print : Schema where
  name := "print"
  fields := [.leaf {
    name := "page", kind := "node", constraints := { target := some "page" }
    default? := some (.constant (.record [] true)) }]
  info := { choice := some ⟨"mark", "print"⟩ }

def shape : FieldSpec :=
  .leaf { name := "shape", kind := "choice", constraints := { choice := some "figure" } }

def drawing : Schema where
  name := "drawing"
  fields := [shape]

def sheet : Schema where
  name := "sheet"
  fields := [
    .leaf { name := "mark", kind := "choice", constraints := { choice := some "mark" } }]

/-- Drawings of circles and rings. A circle may be written as its radius. -/
def registry : Registry where
  kinds := .builtin
  schemas := [circle, ring, page, dot, print, drawing, sheet]
  choices := [("figure", [("circle", "circle"), ("ring", "ring")]),
    ("mark", [("dot", "dot"), ("print", "print")])]
  frozen := true

theorem registry_made : registry.Made := by
  have circles := Registry.Made.schema (.empty .builtin) (show Registry.register? _ circle.name
    (.specs circle.fields) circle.info = .ok (_, circle) from rfl)
  have rings := Registry.Made.schema circles (show Registry.register? _ ring.name
    (.specs ring.fields) ring.info = .ok (_, ring) from rfl)
  have pages := Registry.Made.schema rings (show Registry.register? _ page.name
    (.specs page.fields) page.info = .ok (_, page) from rfl)
  have dots := Registry.Made.schema pages (show Registry.register? _ dot.name
    (.specs dot.fields) dot.info = .ok (_, dot) from rfl)
  have prints := Registry.Made.schema dots (show Registry.register? _ print.name
    (.specs print.fields) print.info = .ok (_, print) from rfl)
  have drawings := Registry.Made.schema prints (show Registry.register? _ drawing.name
    (.specs drawing.fields) drawing.info = .ok (_, drawing) from rfl)
  have sheets := Registry.Made.schema drawings (show Registry.register? _ sheet.name
    (.specs sheet.fields) sheet.info = .ok (_, sheet) from rfl)
  exact .frozen sheets rfl rfl

theorem registry_builtin : registry.Every (FieldSpec.Builtin registry.kinds) := by
  simp only [Registry.Every, FieldSpec.Every, registry, circle, ring, page, dot, print, drawing,
    sheet, radius, shape, Schema.allFields, FieldSpec.walk, List.forall_mem_cons, Option.map_none,
    Option.map_some, Option.toList_some, Option.toList_none, List.append_nil, List.not_mem_nil,
    false_imp_iff, implies_true, and_true, List.cons_append, List.nil_append]
  exact ⟨⟨⟨.integer, rfl, rfl⟩, ⟨.integer, rfl, rfl⟩⟩, ⟨⟨.integer, rfl, rfl⟩, ⟨.integer, rfl, rfl⟩⟩,
    trivial, ⟨.integer, rfl, rfl⟩, ⟨.node, rfl, rfl⟩, ⟨.choice, rfl, rfl⟩, ⟨.choice, rfl, rfl⟩⟩

theorem registry_plain : registry.Every fun s => s.FixedPattern ∧ s.PureDefault := by
  simp [Registry.Every, FieldSpec.Every, registry, circle, ring, page, dot, print, drawing, sheet,
    radius, shape, Schema.allFields, FieldSpec.walk, FieldSpec.FixedPattern, FieldSpec.PureDefault,
    FieldSpec.info]

/-- A drawing of the shape. -/
def drawn (shape : Value) : Value := .record [("shape", shape)] true

/-- A drawing of a figure of the schema. -/
def stored (figure : String) (values : Entries Value) : Node where
  schema := "drawing"
  values := [("shape", .node ⟨figure, values, [], some figure, []⟩)]
  defaulted := []
  choiceType := none
  compactable := []

def holed : Value := .record [("radius", .number 2), ("hole", .number 1)] true

def marked : Value := .record [("mark", .record [("radius", .number 2)] true)] true

/-- An integer that has to be given. -/
def Required (spec : FieldSpec) : Prop :=
  ∃ info, spec = .leaf info ∧ info.kind = "integer" ∧ info.default? = none

/-- Where the values stand while a drawing of a bare radius is validated. -/
def Placed : Position → Value → Prop
  | .node name, v => name = "drawing" ∧ v = drawn (.number 2) ∨
      (name = "circle" ∨ name = "ring") ∧ v = .number 2
  | .value spec, v => spec = shape ∧ v = .number 2 ∨ Required spec
  | .choice group, v => group = "figure" ∧ v = .number 2

theorem required_of_figure {name : String} {schema : Schema} {spec : FieldSpec}
    (figure : name = "circle" ∨ name = "ring") (found : registry.find? name = some schema)
    (declared : spec ∈ schema.fields) : Required spec := by
  obtain rfl | rfl := figure
  · cases found
    cases List.mem_singleton.mp declared
    exact ⟨_, rfl, rfl, rfl⟩
  · cases found
    obtain rfl | declared := List.mem_cons.mp declared
    · exact ⟨_, rfl, rfl, rfl⟩
    · cases List.mem_singleton.mp declared
      exact ⟨_, rfl, rfl, rfl⟩

theorem placed_of_stands {p : Position} {v : Value}
    (stands : Stands registry "drawing" (drawn (.number 2)) p v) : Placed p v := by
  induction stands with
  | root => exact .inl ⟨rfl, rfl⟩
  | field _ found declared entries held placed =>
    obtain ⟨rfl, rfl⟩ | ⟨figure, -⟩ := placed
    · cases found
      cases entries
      cases List.mem_singleton.mp declared
      cases held
      exact .inl ⟨rfl, rfl⟩
    · exact .inr (required_of_figure figure found declared)
  | made _ found declared default _ placed =>
    obtain ⟨rfl, -⟩ | ⟨figure, -⟩ := placed
    · cases found
      cases List.mem_singleton.mp declared
      cases default
    · exact .inr (required_of_figure figure found declared)
  | shortform _ found bare form placed =>
    obtain ⟨rfl, rfl⟩ | ⟨rfl | rfl, -⟩ := placed
    · cases bare
    · cases found
      cases form
      exact .inr ⟨_, rfl, rfl, rfl⟩
    · cases found
      cases form
  | expanded _ found bare _ _ declared _ placed =>
    obtain ⟨rfl, rfl⟩ | ⟨figure, -⟩ := placed
    · cases bare
    · exact .inr (required_of_figure figure found declared)
  | target _ kind _ placed =>
    obtain ⟨rfl, -⟩ | ⟨info, rfl, integer, -⟩ := placed
    · exact absurd kind (by decide)
    · exact absurd (integer.symm.trans kind) (by decide)
  | group _ kind declared placed =>
    obtain ⟨rfl, rfl⟩ | ⟨info, rfl, integer, -⟩ := placed
    · cases declared
      exact ⟨rfl, rfl⟩
    · exact absurd (integer.symm.trans kind) (by decide)
  | member _ tried placed =>
    obtain ⟨rfl, rfl⟩ := placed
    have member : _ ∈ ["circle", "ring"] := tried
    exact .inr ⟨by simpa using member, rfl⟩
  | item _ _ _ placed | key _ _ _ placed | entry _ _ _ placed | form _ placed =>
    obtain ⟨same, -⟩ | ⟨info, same, -⟩ := placed <;> cases same

/-- A bare radius fits a circle and nothing else. -/
theorem radius_decided (o : ValidateOptions) :
    (o.rules registry).Decided "drawing" (drawn (.number 2)) := by
  intro group v stands _ _ levels place name found sole other member apart
  obtain ⟨rfl, rfl⟩ := placed_of_stands stands
  have unfit : ∀ rules : Rules, rules.registry = registry →
      Choice.fit? (checkNodeAt rules levels) (.number 2) place "ring" = none := fun rules known =>
    Choice.fit?_bare (known ▸ rfl : rules.registry.find? "ring" = some ring) rfl rfl levels
  have figure : name ∈ ["circle", "ring"] := sole.member
  have figure' : other ∈ ["circle", "ring"] := member
  simp only [List.mem_cons, List.not_mem_nil, or_false] at figure figure'
  obtain rfl | rfl := figure
  · obtain rfl | rfl := figure'
    · exact absurd rfl apart
    · exact unfit _ rfl
  · cases (unfit _ rfl).symm.trans sole.fits

end Drawings

end ShapedTree
