import ShapedTree.Proofs.Kind.Inquiry
import ShapedTree.Proofs.Kind.MappingOrder
import ShapedTree.Proofs.Run.Logic
import ShapedTree.Proofs.Validation.ValueCompleteness

namespace ShapedTree

open Run

variable {rules : Rules}

/-- Every value that a snapshot holds or inherits from satisfies `P`. -/
structure Snapshot.All (P : Value → Prop) (s : Snapshot) : Prop where
  entries : ∀ e ∈ s.entries, P e.2
  heritage : ∀ v, s.heritage = .object v → P v

/-- Every value that the views show satisfies `P`. -/
def NodeView.All (P : Value → Prop) (views : List NodeView) : Prop :=
  ∀ view ∈ views, ∀ e ∈ view.values, P e.2

/-- Every value that a generator is shown satisfies `P`. -/
structure GeneratorArgs.All (P : Value → Prop) (a : GeneratorArgs) : Prop where
  stack : NodeView.All P a.stack
  siblings : a.siblings.All P

theorem Snapshot.All.assign {P : Value → Prop} {s : Snapshot} (h : s.All P) (field : String)
    {v : Value} (hv : P v) : (s.assign field v).All P := by
  unfold Snapshot.assign
  split
  next =>
    split
    next => exact ⟨h.entries, nofun⟩
    next =>
      split
      next => exact ⟨h.entries, by rintro w ⟨⟩; exact hv⟩
      next => exact h
  next =>
    refine ⟨fun e he => ?_, h.heritage⟩
    rcases Record.mem_of_mem_insert he with rfl | old
    · exact hv
    · exact h.entries e old

theorem Snapshot.All.ofList {P : Value → Prop} {es : List (String × Value)}
    (h : ∀ e ∈ es, P e.2) : (Snapshot.ofList es).All P := by
  have start : ∀ s : Snapshot, s.All P →
      (es.foldl (fun s e => s.assign e.1 e.2) s).All P := by
    induction es with
    | nil => exact fun s hs => hs
    | cons e es ih =>
      obtain ⟨first, others⟩ := List.forall_mem_cons.mp h
      exact fun s hs => ih others _ (hs.assign e.1 first)
  exact start {} ⟨nofun, nofun⟩

/-- What a default comes to satisfies `post` if the values that it is shown satisfy `shown`. -/
def FieldDefault.Yields (L : Logic rules) (post shown : Value → Prop) : FieldDefault → Prop
  | .constant v => post v
  | .factory made => L.Yields made post
  | .counting _ make => L.remembers ∧ ∀ count, L.Yields (make count) post
  | .computed generate => ∀ args, args.All shown → L.Yields (generate args) post

/-- The extra check of a specification may be used in a logic. -/
def FieldSpec.Checkable (L : Logic rules) (s : FieldSpec) : Prop :=
  ∀ check, s.info.constraints.validator = some check → ∀ v, L.Yields (check v) fun _ => True

/-- What a logic relies on in a specification, where defaults have to satisfy `post`. -/
structure FieldSpec.Admits (L : Logic rules) (post stored : Value → Prop) (s : FieldSpec) :
    Prop where
  builtin : s.Builtin rules.registry.kinds
  fixed : ¬ L.remembers → s.FixedPattern
  check : s.Checkable L
  default : ∀ d, s.info.default? = some d → d.Yields L post stored

/-- What a logic relies on in a schema, where expansions have to satisfy `post`. -/
structure Schema.Admits (L : Logic rules) (post : Entries Value → Prop) (stored : Value → Prop)
    (s : Schema) : Prop where
  expand : ∀ short, s.info.shortform = some short → ∀ v, stored v → L.Yields (short.expand v) post
  check : ∀ check, s.info.validator = some check → ∀ args, L.Yields (check args) fun _ => True

/-- Raw values, records and arguments of which a logic can say that they are validated, and the
values that are stored for them: whatever they are made of is among them, and whatever is made of
the stored ones. -/
structure Run.Logic.Premises (L : Logic rules) where
  value : Value → Prop
  record : Entries Value → Prop
  stored : Value → Prop
  args : Kwargs → Prop
  text : ∀ s, value (.text s)
  items : ∀ {v : Value} {vs : List Value}, value v → v.items? = some vs → ∀ w ∈ vs, value w
  entries : ∀ {v : Value} {es : Entries Value}, value v → v.entries? = some es → record es
  parts : ∀ {es : Entries Value}, record es → ∀ e ∈ es, value e.2
  type : ∀ {es : Entries Value} {t : Value}, record es → es.lookup "type" = some t →
    L.Yields t.json fun _ => True
  shows : ∀ {v : Value}, value v → L.Shows (some v)
  copy : ∀ {v c : Value}, v.jsonCopy? = some c → stored c
  list : ∀ {vs : List Value}, (∀ v ∈ vs, stored v) → stored (.list vs)
  mapping : ∀ {es : Entries Value}, (∀ e ∈ es, stored e.2) → stored (.record es true)
  node : ∀ {n : Node}, (∀ e ∈ n.values, stored e.2) → stored (.node n)
  override : ∀ {k : Kwargs} (overrides : Option (Entries Value)), args k →
    args (k.override overrides)
  spec : rules.registry.Every (FieldSpec.Admits L value stored)
  schema : ∀ s ∈ rules.registry.schemas, s.Admits L record stored
  required : L.total → ∀ k : Kwargs, args k → ∀ s ∈ rules.registry.schemas,
    k.missing (s.info.requires.getD []) = []

variable {L : Logic rules}

/-- What a logic relies on in a specification under its premises. -/
abbrev Run.Logic.Premises.Admits (C : L.Premises) : FieldSpec → Prop :=
  FieldSpec.Admits L C.value C.stored

namespace Kind

open Run.Logic

variable {law : Value → Prop}

theorem checkItems_holds {item : PartCheck Run} {items : List Value}
    (h : ∀ raw ∈ items, ∀ label, L.Holds (item raw label) (Permits law)) (index : Nat) :
    L.Holds (Kind.checkItems (Run.halted rules) item index items)
      (Permits fun vs => ∀ v ∈ vs, law v) := by
  induction items generalizing index with
  | nil => exact L.pure (.some (List.forall_mem_nil _))
  | cons raw rest ih =>
    obtain ⟨first, others⟩ := List.forall_mem_cons.mp h
    refine L.bind (first _) fun answer hanswer => guard (L.pure ?_) ?_
    · rintro vs same
      obtain ⟨v, rfl, rfl⟩ := Option.map_eq_some_iff.mp same
      exact List.forall_mem_singleton.mpr (hanswer v rfl)
    · refine L.bind (ih others (index + 1)) fun more hmore => ?_
      split
      next v vs =>
        exact L.pure (.some (List.forall_mem_cons.mpr ⟨hanswer v rfl, hmore vs rfl⟩))
      next => exact L.pure .none

/-- A kind's result, if it is a value, satisfies the law. -/
def Allows (law : Value → Prop) (result : KindResult) : Prop := ∀ v, result = .ok v → law v

theorem Allows.error {findings : List Finding} : Allows law (.error findings) := nofun

theorem Allows.ok {v : Value} (h : law v) : Allows law (.ok v) := by
  intro w same
  cases same
  exact h

theorem Allows.map {result : Except (List Finding) String} (h : ∀ s, law (.text s)) :
    Allows law (result.map .text) := by
  cases result with
  | error => exact .error
  | ok s => exact .ok (h s)

theorem Allows.bind {result : Except (List Finding) String} {f : String → KindResult}
    (h : ∀ s, Allows law (f s)) : Allows law (result.bind f) := by
  cases result with
  | error => exact .error
  | ok s => exact h s

theorem checkIdentifier_allows (text : ∀ s, law (.text s)) (s : String) :
    Allows law (checkIdentifier s) := by
  intro v named
  rw [← (checkIdentifier_eq_ok.mp named).1]
  exact text s

theorem checkPattern_allows (text : ∀ s, law (.text s)) (s : String) :
    Allows law (checkPattern s) := by
  intro v read
  rw [← (checkPattern_eq_ok.mp read).1]
  exact text s

theorem checkEntries_holds (mapping : ∀ es : Entries Value, (∀ e ∈ es, law e.2) →
      law (.record es true)) {byInteger : Bool} {key value : PartCheck Run}
    {es : List (String × Value)} (hkey : ∀ s label, L.Holds (key (.text s) label) fun _ => True)
    (hvalue : ∀ e ∈ es, ∀ label, L.Holds (value e.2 label) (Permits law)) (failed : Bool)
    {done : Entries Value} (hdone : ∀ e ∈ done, law e.2) :
    L.Holds (Kind.checkEntries (Run.halted rules) byInteger key value failed done es)
      (Allows law) := by
  have ending : ∀ (failed : Bool) (done : Entries Value), (∀ e ∈ done, law e.2) →
      L.Holds (pure (if failed then reported else .ok (.record (sortMapping byInteger done) true)))
        (Allows law) := by
    intro failed done hdone
    cases failed with
    | true => exact L.pure .error
    | false => exact L.pure (.ok (mapping _ fun e he => hdone e (mem_of_mem_sortMapping he)))
  induction es generalizing failed done with
  | nil => exact ending failed done hdone
  | cons e rest ih =>
    obtain ⟨first, others⟩ := List.forall_mem_cons.mp hvalue
    refine L.bind (hkey _ _) fun k _ => L.bind (first _) fun v hv => ?_
    split
    next name w =>
      split
      next => exact L.pure .error
      next =>
        have longer : ∀ d ∈ Record.insert done name w, law d.2 := by
          intro d hd
          rcases Record.mem_of_mem_insert hd with rfl | old
          · exact hv w rfl
          · exact hdone d old
        exact guard (ending _ _ longer) (ih others _ longer)
    next => exact guard (ending true _ hdone) (ih others true hdone)

end Kind

namespace Choice

open Run.Logic

variable {C : L.Premises} {node : NodeRun} {raw : Value} {place : Place} {law : Node → Prop}

theorem matching_holds (h : ∀ name, L.Holds (node raw name place) (Permits law))
    (names : List String) : L.Holds (matching node raw place names) fun found =>
      ∀ m ∈ found, law m.node := by
  induction names with
  | nil => exact L.pure nofun
  | cons name rest ih =>
    refine L.bind (L.trial (h name)) fun tried htried => L.bind ih fun others hothers => ?_
    obtain ⟨answer, issues, log⟩ := tried
    cases answer with
    | none => exact L.pure hothers
    | some n =>
      refine L.pure ?_
      split
      next => exact List.forall_mem_cons.mpr ⟨htried n rfl, hothers⟩
      next => exact hothers

theorem namedType?_eq_some {type : Value} (h : namedType? raw = some type) :
    ∃ es, raw.entries? = some es ∧ es.lookup "type" = some type := by
  unfold namedType? at h
  split at h
  next => cases h
  next es shape => exact ⟨es, shape, (Option.filter_eq_some_iff.mp h).1⟩

theorem byType_holds (good : C.value raw) (h : ∀ name, L.Holds (node raw name place) (Permits law))
    (group : String) (members : List (String × String)) (types : List String) {type : Value}
    (named : namedType? raw = some type) :
    L.Holds (byType rules node raw group place members types type) (Permits law) := by
  obtain ⟨es, shape, held⟩ := namedType?_eq_some named
  have record : C.record es := C.entries good shape
  have shown : C.value type := C.parts record _ (Entries.mem_of_lookup held)
  unfold byType
  split
  next => exact h _
  next =>
    refine L.bind (C.type record held).holds fun text _ => ?_
    exact L.bind (report (C.shows shown)) fun _ _ => L.pure .none

theorem byFit_holds (good : C.value raw) (h : ∀ name, L.Holds (node raw name place) (Permits law))
    (group : String) (members : List (String × String)) (types : List String) :
    L.Holds (byFit rules node raw group place members types) (Permits law) := by
  unfold byFit
  refine L.bind (matching_holds h _) fun found hfound => ?_
  split
  next m => exact L.bind (L.adopt _) fun _ _ => L.pure (.some (hfound m (by simp)))
  next => exact L.bind (report (C.shows good)) fun _ _ => L.pure .none

theorem check_holds (good : C.value raw) (h : ∀ name, L.Holds (node raw name place) (Permits law))
    (group : String) : L.Holds (check rules node raw group place) (Permits law) := by
  unfold check
  refine guard (L.pure .none) ?_
  simp only
  split
  next type named => exact byType_holds good h group _ _ named
  next =>
    split
    next => exact h _
    next =>
      split
      next => exact L.bind (report (C.shows good)) fun _ _ => L.pure .none
      next => exact byFit_holds good h group _ _

end Choice

namespace Validation

open Run.Logic

/-- Where a logic says something of the checks of values and nodes. -/
structure Within (C : L.Premises) (place : Place) (depth : Nat) : Prop where
  args : C.args place.kwargs
  views : NodeView.All C.stored place.stack
  level : place.depth = depth

variable (C : L.Premises)

/-- The logic says of every check of nodes on a level that its answers are stored. -/
def NodesHold (node : NodeRun) (depth : Nat) : Prop :=
  ∀ raw name place, C.value raw → Within C place depth →
    L.Holds (node raw name place) (Permits fun n => C.stored (.node n))

/-- The logic says of every check of values on a level that its answers are stored. -/
def ValuesHold (value : ValueRun) (depth : Nat) : Prop :=
  ∀ spec, spec.Every C.Admits → ∀ raw place, C.value raw →
    Within C place depth → L.Holds (value spec raw place) (Permits C.stored)

/-- The logic says of the checks of a specification's parts that their answers are stored. -/
inductive PartsHold : PartChecks Run → Prop
  | none : PartsHold .none
  | list {item : PartCheck Run}
      (h : ∀ raw label, C.value raw → L.Holds (item raw label) (Permits C.stored)) :
      PartsHold (.list item)
  | mapping {byInteger : Bool} {key value : PartCheck Run}
      (hkey : ∀ raw label, C.value raw → L.Holds (key raw label) (Permits C.stored))
      (hvalue : ∀ raw label, C.value raw → L.Holds (value raw label) (Permits C.stored)) :
      PartsHold (.mapping byInteger key value)
  | either {primitive complex : PartCheck Run}
      (hprimitive : ∀ raw label, C.value raw → L.Holds (primitive raw label) (Permits C.stored))
      (hcomplex : ∀ raw label, C.value raw → L.Holds (complex raw label) (Permits C.stored)) :
      PartsHold (.either primitive complex)

variable {C} {node : NodeRun} {other : ValueRun} {depth : Nat} {place : Place}

theorem Within.inside (h : Within C place depth) (spec : FieldSpec) :
    Within C (place.inside spec) depth := ⟨C.override _ h.args, h.views, h.level⟩

theorem Within.labelled (h : Within C place depth) (label : String) :
    Within C (place.labelled label) depth := ⟨h.args, h.views, h.level⟩

theorem Within.below (h : Within C place depth) (overrides : Option (Entries Value)) :
    Within C (place.below overrides) (depth + 1) :=
  ⟨C.override _ h.args, h.views, congrArg (· + 1) h.level⟩

theorem checkText_holds {c : Constraints}
    (fixed : ¬ L.remembers → ∀ p, c.pattern = some p → p.remembers = false) (raw : Value) :
    L.Holds (Kind.checkText Run.test c raw) fun _ => True := by
  cases raw with
  | text s =>
    simp only [Kind.checkText]
    cases Kind.textLength c (Text.size s) with
    | some f => exact top
    | none =>
      cases pattern : c.pattern with
      | none => exact top
      | some p =>
        refine L.bind (test p s fun forgets => fixed forgets p pattern) fun found _ => ?_
        cases found <;> exact top
  | _ => exact top

/-- The logic says of the checks of a raw value's parts that their answers satisfy the law. -/
inductive PartsSatisfy (L : Logic rules) (law : Value → Prop) (raw : Value) : PartChecks Run → Prop
  | none : PartsSatisfy L law raw .none
  | list {item : PartCheck Run} (h : ∀ items, raw.items? = some items → ∀ v ∈ items, ∀ label,
      L.Holds (item v label) (Permits law)) : PartsSatisfy L law raw (.list item)
  | mapping {byInteger : Bool} {key value : PartCheck Run}
      (hkey : ∀ s label, L.Holds (key (.text s) label) fun _ => True)
      (hvalue : ∀ es, raw.entries? = some es → ∀ e ∈ es, ∀ label,
        L.Holds (value e.2 label) (Permits law)) :
      PartsSatisfy L law raw (.mapping byInteger key value)
  | either {primitive complex : PartCheck Run}
      (hprimitive : L.Holds (primitive raw "") (Permits law))
      (hcomplex : L.Holds (complex raw "") (Permits law)) :
      PartsSatisfy L law raw (.either primitive complex)

/-- What a kind without parts makes of a value satisfies a law of texts and of verdicts. -/
theorem flat_holds {law : Value → Prop} {k : BuiltinKind} {spec : FieldSpec}
    {parts : PartChecks Run} {raw : Value} (flat : k.isNested = false)
    (fixed : ¬ L.remembers → spec.FixedPattern) (text : ∀ s, law (.text s))
    (scalar : ∀ v, k.verdict spec.info.constraints raw = .ok v → law v) :
    L.Holds (k.check (context rules node other spec place) parts spec.info raw)
      (Kind.Allows law) := by
  have texts : L.Holds (Kind.checkText Run.test spec.info.constraints raw) fun _ => True :=
    checkText_holds fixed raw
  cases k with
  | string => exact L.bind texts fun result _ => L.pure (.map text)
  | identifier =>
    exact L.bind texts fun result _ => L.pure (.bind (Kind.checkIdentifier_allows text))
  | pattern => exact L.bind texts fun result _ => L.pure (.bind (Kind.checkPattern_allows text))
  | node | choice | list | mapping | either => cases flat
  | _ => exact L.pure scalar

/-- What a built-in kind makes of a value satisfies a law that its nodes and its parts satisfy and
that goes from the parts to the whole. -/
theorem builtin_holds {law : Value → Prop} {k : BuiltinKind} {spec : FieldSpec}
    {parts : PartChecks Run} {raw : Value}
    (fixed : ¬ L.remembers → spec.FixedPattern) (text : ∀ s, law (.text s))
    (scalar : k.isNested = false → ∀ v, k.verdict spec.info.constraints raw = .ok v → law v)
    (list : ∀ vs, (∀ v ∈ vs, law v) → law (.list vs))
    (mapping : ∀ es : Entries Value, (∀ e ∈ es, law e.2) → law (.record es true))
    (target : ∀ name, L.Holds (node raw name ((place.inside spec).below spec.info.kwargs))
      (Permits fun n => law (.node n)))
    (group : ∀ name, L.Holds
      (Choice.check rules node raw name ((place.inside spec).below spec.info.kwargs))
      (Permits fun n => law (.node n)))
    (hparts : PartsSatisfy L law raw parts) :
    L.Holds (k.check (context rules node other spec place) parts spec.info raw)
      (Kind.Allows law) := by
  have nodes : ∀ answer : Option Node, Permits (fun n => law (.node n)) answer →
      Kind.Allows law (Kind.ofNode answer) := by
    rintro (_ | n) held
    · exact .error
    · exact .ok (held n rfl)
  cases flat : k.isNested with
  | false => exact flat_holds flat fixed text (scalar flat)
  | true =>
    obtain ⟨q, asks, same⟩ := BuiltinKind.check_asks flat spec.info raw
    rw [same]
    cases asks with
    | mismatch | length => exact L.pure .error
    | node => exact L.bind (target _) fun answer held => L.pure (nodes answer held)
    | choice => exact L.bind (group _) fun answer held => L.pure (nodes answer held)
    | @items vs shape _ =>
      cases hparts with
      | list h =>
        refine L.bind (Kind.checkItems_holds (h vs shape) 0) fun answer held => ?_
        cases answer with
        | none => exact L.pure .error
        | some ws => exact L.pure (.ok (list ws (held ws rfl)))
      | _ => exact L.pure .error
    | entries shape =>
      cases hparts with
      | mapping hkey hvalue =>
        exact Kind.checkEntries_holds mapping hkey (hvalue _ shape) false (List.forall_mem_nil _)
      | _ => exact L.pure .error
    | form =>
      cases hparts with
      | @either primitive complex hprimitive hcomplex =>
        have form : L.Holds ((if raw.isPrimitive then primitive else complex) raw "")
            (Permits law) := by
          cases raw.isPrimitive with
          | true => exact hprimitive
          | false => exact hcomplex
        refine L.bind form fun answer held => ?_
        cases answer with
        | none => exact L.pure .error
        | some v => exact L.pure (.ok (held v rfl))
      | _ => exact L.pure .error

theorem kind_holds (hnode : NodesHold C node (depth + 1)) {k : BuiltinKind} {spec : FieldSpec}
    (admits : C.Admits spec) {parts : PartChecks Run}
    (hparts : PartsHold C parts) {raw : Value} (good : C.value raw)
    (present : (raw.isNull && !k.takesNull) = false) (within : Within C place depth) :
    L.Holds (k.check (context rules node other spec place) parts spec.info raw)
      (Kind.Allows C.stored) := by
  have below : ∀ name, L.Holds (node raw name ((place.inside spec).below spec.info.kwargs))
      (Permits fun n => C.stored (.node n)) := fun name =>
    hnode raw name _ good ((within.inside spec).below _)
  refine builtin_holds admits.fixed (fun s => C.copy (v := .text s) rfl) (fun flat v taken => ?_)
    (fun _ => C.list) (fun _ => C.mapping) below (fun name => Choice.check_holds good below name) ?_
  · exact C.copy (BuiltinKind.holds_of_verdict flat taken present).steady.copy
  · cases hparts with
    | none => exact .none
    | list h =>
      exact .list fun items shape v hv label => h v label (C.items good shape v hv)
    | mapping hkey hvalue =>
      refine .mapping (fun s label => L.mono (hkey (.text s) label (C.text s)) fun _ _ => trivial)
        fun es shape e he label => hvalue e.2 label ?_
      exact C.parts (C.entries good shape) e he
    | either hprimitive hcomplex => exact .either (hprimitive raw "" good) (hcomplex raw "" good)

theorem checkAccepted_holds {law : Value → Prop} {spec : FieldSpec} (checks : spec.Checkable L)
    {raw : Value} (shows : L.Shows (some raw)) {v : Value} (taken : law v) (path : List String) :
    L.Holds (checkAccepted rules spec raw v path) (Permits law) := by
  have held : L.Holds (pure (if v.isUndefined then none else some v)) (Permits law) := by
    split
    next => exact L.pure .none
    next => exact L.pure (.some taken)
  cases validator : spec.info.constraints.validator with
  | none =>
    simp only [checkAccepted, validator]
    exact held
  | some check =>
    simp only [checkAccepted, validator]
    refine L.bind (checks check validator v).holds fun verdict _ => ?_
    cases verdict with
    | pass => exact held
    | fail => exact L.bind (report shows) fun _ _ => L.pure .none
    | failWith => exact L.bind (report shows) fun _ _ => L.pure .none

theorem reportAll_holds {raw : Value} (shows : L.Shows (some raw)) (path : List String)
    (findings : List Finding) :
    L.Holds (findings.forM (reportFinding rules path raw)) fun _ => True := by
  induction findings with
  | nil => exact top
  | cons f fs ih => exact L.bind (report shows) fun _ _ => ih

theorem checkWith_holds {law : Value → Prop} {ctx : KindContext Run} {parts : PartChecks Run}
    {spec : FieldSpec} (checks : spec.Checkable L) {raw : Value} (shows : L.Shows (some raw))
    (null : raw.isNull = true → law .null) {path : List String}
    (h : (raw.isNull && !rules.registry.kinds.acceptsNull spec.kind) = false →
      L.Holds (rules.registry.kinds.check spec.kind ctx parts spec raw) (Kind.Allows law)) :
    L.Holds (checkWith rules ctx parts spec raw path) (Permits law) := by
  unfold checkWith
  refine guard (L.pure .none) ?_
  split
  next absent =>
    split
    next => exact L.pure (.some (null (Bool.and_eq_true_iff.mp absent).1))
    next => exact L.bind (report .none) fun _ _ => L.pure .none
  next present =>
    split
    next => exact L.bind (report .none) fun _ _ => L.pure .none
    next =>
      refine L.bind (h (Bool.eq_false_iff.mpr present)) fun result taken => ?_
      cases result with
      | error findings =>
        exact L.bind (reportAll_holds shows path findings) fun _ _ => L.pure .none
      | ok v => exact checkAccepted_holds checks shows (taken v rfl) path

/-- The logic says something of the checks of values if it does of the checks of nodes one level
deeper. -/
theorem checkSpec_holds (hnode : NodesHold C node (depth + 1)) :
    ValuesHold C (checkSpec rules node other) depth := by
  have whole : ∀ {spec : FieldSpec}, spec.Every C.Admits →
      (∀ place : Place, Within C place depth → PartsHold C (.ofSpec
        (fun part raw label =>
          checkSpec rules node other part raw ((place.inside spec).labelled label)) spec)) →
      ∀ (raw : Value) (place : Place), C.value raw → Within C place depth →
        L.Holds (checkSpec rules node other spec raw place) (Permits C.stored) := by
    intro spec admits parts raw place good within
    obtain ⟨k, known⟩ := admits.self.builtin
    rw [checkSpec_eq]
    refine checkWith_holds admits.self.check (C.shows good)
      (fun _ => C.copy (v := .null) rfl) fun present => ?_
    rw [known.acceptsNull_eq] at present
    rw [known.check_eq]
    exact kind_holds hnode admits.self (parts place within) good present within
  intro spec admits
  induction spec with
  | leaf info => exact whole admits fun _ _ => .none
  | list info item ih =>
    refine whole admits fun place within => .list fun raw label good => ?_
    exact ih admits.item raw _ good ((within.inside _).labelled label)
  | mapping info key value ihKey ihValue =>
    refine whole admits fun place within =>
      .mapping (fun raw label good => ?_) fun raw label good => ?_
    · exact ihKey admits.key raw _ good ((within.inside _).labelled label)
    · exact ihValue admits.value raw _ good ((within.inside _).labelled label)
  | either info primitive complex ihPrimitive ihComplex =>
    refine whole admits fun place within =>
      .either (fun raw label good => ?_) fun raw label good => ?_
    · exact ihPrimitive admits.primitive raw _ good ((within.inside _).labelled label)
    · exact ihComplex admits.complex raw _ good ((within.inside _).labelled label)

end Validation

end ShapedTree
