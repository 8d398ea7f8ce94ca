import ShapedTree.Proofs.Run.Recording
import ShapedTree.Proofs.Validation.Depth
import ShapedTree.Proofs.Validation.FailFast
import ShapedTree.Proofs.Validation.Inference
import ShapedTree.Proofs.Validation.Restacking

namespace ShapedTree

open Run ShapedTree.Computation

/-- The default, if there is one, is not computed from its surroundings. -/
def FieldSpec.Uncomputed (s : FieldSpec) : Prop :=
  ∀ generate, s.info.default? ≠ some (.computed generate)

/-- The node check, if there is one, does not look at the ancestors. -/
def Schema.IgnoresStack (s : Schema) : Prop :=
  ∀ check, s.info.validator = some check →
    ∀ (args : NodeCheckArgs) (stack : List NodeView), check { args with stack } = check args

/-- Without computed defaults and checks that look at the ancestors, no ancestors matter. -/
def Registry.indifference {r : Registry} (builtin : r.Every (FieldSpec.Builtin r.kinds))
    (uncomputed : r.Every FieldSpec.Uncomputed) (stackless : ∀ s ∈ r.schemas, s.IgnoresStack) :
    Indifference r where
  schemas _ := True
  alike _ _ := True
  push _ _ := trivial
  confined := r.confined_of_builtin builtin
  generator _ found _ declared generate default :=
    absurd default ((uncomputed.field found declared).self generate)
  check _ found check declared a b values kwargs _ :=
    stackless _ (List.mem_of_find?_eq_some found) check declared ⟨.ofList values, a, kwargs⟩ b

namespace Validation

/-- Where the issues of a record come from, other than from the check of the whole node: from its
depth, its type, its undeclared keys, and its fields. -/
inductive IssueOrigin where
  | depth
  | type
  | keys
  | field (name : String)
deriving DecidableEq, Repr

/-- Issues by their origins. -/
abbrev Report := List (IssueOrigin × List Issue)

variable (rules : Rules) (value : ValueRun) (schema : Schema) (record : Entries Value)
  (place : Place)

/-- The first pass over one field of a node that holds nothing yet. -/
def enter (spec : FieldSpec) : Run (List Slot × Draft) :=
  firstPass rules value schema record place { schema := schema.name } [spec]

/-- A field after the first pass. -/
def fieldSlot (spec : FieldSpec) : Slot :=
  match (enter rules value schema record place spec {}).1 with
  | .ok (slot :: _, _) => slot
  | _ => { spec }

/-- The second pass over one field of a node that holds nothing yet. -/
def settle (slot : Slot) : Run Draft :=
  secondPass rules value place [] { schema := schema.name } [slot]

/-- The issues of a record by their origins, in the order in which they are reported: every field
has its part in the first pass, in the second one, and among the missing ones. -/
def breakdown : Report :=
  (.type, recorded (checkType rules schema record place)) ::
  (.keys, recorded (checkKeys rules schema place record)) ::
  (schema.fields.map fun spec =>
    (.field spec.name, recorded (enter rules value schema record place spec))) ++
  (schema.fields.map fun spec => (.field spec.name,
    recorded (settle rules value schema place (fieldSlot rules value schema record place spec)))) ++
  (schema.fields.map fun spec => (.field spec.name,
    recorded (checkMissing rules schema place [fieldSlot rules value schema record place spec])))

variable {rules value schema record place}

theorem firstPass_append (xs ys : List FieldSpec) (draft : Draft) :
    firstPass rules value schema record place draft (xs ++ ys) = do
      let r ← firstPass rules value schema record place draft xs
      let u ← firstPass rules value schema record place r.2 ys
      return (r.1 ++ u.1, u.2) := by
  induction xs generalizing draft with
  | nil => simp [firstPass]
  | cons spec rest ih =>
    simp only [List.cons_append, firstPass, ih, bind_assoc, pure_bind]
    refine congrArg (halted rules >>= ·) (funext fun stopped => ?_)
    split
    · simp
    · simp only [bind_assoc]
      refine congrArg (start schema record spec >>= ·) (funext fun started => ?_)
      split
      · simp
      · split <;> simp

theorem secondPass_append (xs ys : List Slot) (earlier : List String) (draft : Draft) :
    secondPass rules value place earlier draft (xs ++ ys) =
      secondPass rules value place earlier draft xs >>= fun draft =>
        secondPass rules value place (earlier ++ xs.map fun slot => slot.spec.name) draft ys := by
  induction xs generalizing earlier draft with
  | nil => simp [secondPass]
  | cons slot rest ih =>
    have names : earlier ++ (slot :: rest).map (fun slot => slot.spec.name) =
        earlier ++ [slot.spec.name] ++ rest.map fun slot => slot.spec.name := by simp
    simp only [List.cons_append, secondPass, ih, names, bind_assoc]
    refine congrArg (halted rules >>= ·) (funext fun stopped => ?_)
    split
    · rfl
    · split <;> simp

theorem checkMissing_append (xs ys : List Slot) :
    checkMissing rules schema place (xs ++ ys) =
      checkMissing rules schema place xs >>= fun _ => checkMissing rules schema place ys := by
  induction xs with
  | nil => simp [checkMissing]
  | cons slot rest ih =>
    simp only [List.cons_append, checkMissing, ih]
    split <;> simp

/-- The values of a node's fields go their own way, whatever the ancestors are, and no default is
computed. -/
structure Apart (rules : Rules) (value : ValueRun) (schema : Schema) : Prop where
  stackless : ∀ spec ∈ schema.fields, ∀ raw place stack,
    value spec raw { place with stack } = value spec raw place
  uncomputed : ∀ spec ∈ schema.fields, spec.Uncomputed
  entered : ∀ spec ∈ schema.fields, ∀ record place,
    Oblivious (enter rules value schema record place spec) fun _ => True
  settled : ∀ slot : Slot, slot.spec ∈ schema.fields → ∀ place,
    Oblivious (settle rules value schema place slot) fun _ => True

/-- A draft with the value of a field, if there is one. -/
def Draft.takes (draft : Draft) (field : String) (mark : Bool) : Option Value → Draft
  | some v => draft.set field v mark
  | none => draft

theorem Draft.schema_takes (draft : Draft) (field : String) (mark : Bool) (answer : Option Value) :
    (Draft.takes draft field mark answer).schema = draft.schema := by
  cases answer <;> rfl

variable {draft : Draft} {s t : RunState}

/-- Of the draft, the value of a field sees the name only. -/
theorem Apart.resolve_eq (apart : Apart rules value schema) {spec : FieldSpec}
    (declared : spec ∈ schema.fields) (own : draft.schema = schema.name) (raw : Value)
    (mark : Bool) :
    resolve value place draft spec raw mark =
      Draft.takes draft spec.name mark <$> value spec raw (place.field schema.name spec.name) := by
  have same := apart.stackless spec declared raw (place.field schema.name spec.name)
    (place.stack ++ [draft.view])
  simp only [resolve, own, same, map_eq_pure_bind]
  refine congrArg (value spec raw _ >>= ·) (funext fun answer => ?_)
  cases answer <;> rfl

theorem Apart.firstPass_map (apart : Apart rules value schema) {spec : FieldSpec}
    (declared : spec ∈ schema.fields) (own : draft.schema = schema.name) :
    (fun r => (r.1, r.2.schema)) <$> firstPass rules value schema record place draft [spec] =
      (fun r => (r.1, schema.name)) <$> enter rules value schema record place spec := by
  have blank : ({ schema := schema.name } : Draft).schema = schema.name := rfl
  unfold enter
  simp only [firstPass, map_bind]
  refine congrArg (halted rules >>= ·) (funext fun stopped => ?_)
  split
  · simp [own]
  · simp only [map_bind]
    refine congrArg (start schema record spec >>= ·) (funext fun started => ?_)
    split
    · simp [own]
    · split
      · simp [own]
      · simp [apart.resolve_eq declared own, apart.resolve_eq declared blank,
          Draft.schema_takes, own]

theorem Apart.secondPass_map (apart : Apart rules value schema) {slot : Slot}
    (declared : slot.spec ∈ schema.fields) (own : draft.schema = schema.name)
    (earlier : List String) :
    Draft.schema <$> secondPass rules value place earlier draft [slot] =
      (fun _ => schema.name) <$> settle rules value schema place slot := by
  have blank : ({ schema := schema.name } : Draft).schema = schema.name := rfl
  unfold settle
  simp only [secondPass, map_bind]
  refine congrArg (halted rules >>= ·) (funext fun stopped => ?_)
  split
  · simp [own]
  · split
    next =>
      simp [apart.resolve_eq declared own, apart.resolve_eq declared blank, Draft.schema_takes, own]
    next default => exact absurd default (apart.uncomputed _ declared _)
    next => simp [own]

theorem map_eq_ok {α β γ : Type} {x : Run α} {y : Run β} {f : α → γ} {g : β → γ} {a : α}
    (same : f <$> x = g <$> y) (run : x s = (.ok a, t)) : ∃ b, y s = (.ok b, t) ∧ g b = f a := by
  have seen := congrFun same s
  rw [map_eq_pure_bind, map_eq_pure_bind, bind_of_ok run] at seen
  obtain ⟨b, u, ran, same⟩ := bind_eq_ok seen.symm
  obtain ⟨value, rfl⟩ := Prod.mk.inj same
  exact ⟨b, ran, Except.ok.inj value⟩

/-- In a run, a field goes through the first pass as it does by itself. -/
theorem Apart.firstPass_split (apart : Apart rules value schema) {spec : FieldSpec}
    (declared : spec ∈ schema.fields) (own : draft.schema = schema.name) {r : List Slot × Draft}
    (run : firstPass rules value schema record place draft [spec] s = (.ok r, t)) :
    r.1 = [fieldSlot rules value schema record place spec] ∧ r.2.schema = schema.name ∧
      t.issues.toList =
        s.issues.toList ++ recorded (enter rules value schema record place spec) := by
  obtain ⟨u, entered, same⟩ := map_eq_ok (apart.firstPass_map declared own) run
  obtain ⟨slots, schemas⟩ := Prod.mk.inj same
  obtain ⟨-, alone, issues⟩ := (apart.entered spec declared record place).split entered
  refine ⟨?_, schemas.symm, issues⟩
  have one : r.1.map Slot.spec = [spec] := firstPass_returns [spec] draft s r t run
  obtain ⟨slot, single⟩ := List.length_eq_one_iff.mp (by simpa using congrArg List.length one)
  rw [single, fieldSlot, alone, show u = ([slot], u.2) from Prod.ext (slots.trans single) rfl]

theorem Apart.firstPass_breakdown (apart : Apart rules value schema) {specs : List FieldSpec}
    (declared : ∀ spec ∈ specs, spec ∈ schema.fields) (own : draft.schema = schema.name)
    {r : List Slot × Draft}
    (run : firstPass rules value schema record place draft specs s = (.ok r, t)) :
    r.1 = specs.map (fieldSlot rules value schema record place) ∧ r.2.schema = schema.name ∧
      t.issues.toList = s.issues.toList ++
        specs.flatMap fun spec => recorded (enter rules value schema record place spec) := by
  induction specs generalizing draft s r with
  | nil =>
    cases run
    exact ⟨rfl, own, by simp⟩
  | cons spec rest ih =>
    obtain ⟨here, others⟩ := List.forall_mem_cons.mp declared
    rw [show spec :: rest = [spec] ++ rest from rfl, firstPass_append] at run
    obtain ⟨a, s₁, first, run⟩ := bind_eq_ok run
    obtain ⟨b, s₂, second, run⟩ := bind_eq_ok run
    cases run
    obtain ⟨slot, schemas, issues⟩ := apart.firstPass_split here own first
    obtain ⟨slots, schemas', issues'⟩ := ih others schemas second
    exact ⟨by rw [slot, slots]; rfl, schemas', by rw [issues', issues]; simp⟩

theorem Apart.secondPass_breakdown (apart : Apart rules value schema) {slots : List Slot}
    (declared : ∀ slot ∈ slots, slot.spec ∈ schema.fields) (own : draft.schema = schema.name)
    {earlier : List String} {last : Draft}
    (run : secondPass rules value place earlier draft slots s = (.ok last, t)) :
    t.issues.toList = s.issues.toList ++
      slots.flatMap fun slot => recorded (settle rules value schema place slot) := by
  induction slots generalizing draft s earlier with
  | nil =>
    cases run
    simp
  | cons slot rest ih =>
    obtain ⟨here, others⟩ := List.forall_mem_cons.mp declared
    rw [show slot :: rest = [slot] ++ rest from rfl, secondPass_append] at run
    obtain ⟨next, s₁, first, run⟩ := bind_eq_ok run
    obtain ⟨alone, settled, schemas⟩ := map_eq_ok (apart.secondPass_map here own earlier) first
    obtain ⟨-, -, issues⟩ := (apart.settled slot here place).split settled
    rw [ih others schemas.symm run, issues]
    simp

theorem checkMissing_breakdown (batch : rules.errors = .batch) {slots : List Slot}
    (run : checkMissing rules schema place slots s = (.ok (), t)) :
    t.issues.toList = s.issues.toList ++
      slots.flatMap fun slot => recorded (checkMissing rules schema place [slot]) :=
  Oblivious.recorded_items rfl (fun slot rest => checkMissing_append [slot] rest)
    (fun slot => checkMissing_holds (L := .oblivious batch) [slot]) run

/-- The issues of a node's own check, if it came to that. -/
def OwnIssues (rules : Rules) (schema : Schema) (place : Place) (issues : List Issue) : Prop :=
  issues = [] ∨ ∃ draft, issues = recorded (checkNode rules schema draft place)

section

variable (batch : rules.errors = .batch)
  (plain : rules.registry.Every (FieldSpec.Memoryless rules.registry.kinds))

include batch plain

theorem fill_breakdown (apart : Apart rules value schema)
    (run : fill rules value schema record place s = (.ok draft, t)) :
    (checkKeys rules schema place record {}).1 = .ok () ∧ t.issues.toList =
      s.issues.toList ++ (breakdown rules value schema record place).flatMap Prod.snd := by
  let C := freePremises (L := .oblivious batch) id plain
  obtain ⟨_, s₁, typed, run⟩ := bind_eq_ok run
  obtain ⟨_, s₂, keyed, run⟩ := bind_eq_ok run
  obtain ⟨r, s₃, first, run⟩ := bind_eq_ok run
  obtain ⟨last, s₄, second, run⟩ := bind_eq_ok run
  obtain ⟨_, s₅, missing, run⟩ := bind_eq_ok run
  cases run
  have type : Oblivious (checkType rules schema record place) fun _ => True :=
    checkType_holds (C := C) trivial
  have keys : Oblivious (checkKeys rules schema place record) fun _ => True :=
    checkKeys_holds (C := C) fun _ _ => trivial
  obtain ⟨slots, schemas, explicit⟩ := apart.firstPass_breakdown (fun _ h => h) rfl first
  have declared : ∀ slot ∈ r.1, slot.spec ∈ schema.fields := fun slot hslot =>
    firstPass_returns schema.fields _ _ _ _ first ▸ List.mem_map_of_mem hslot
  have nested := apart.secondPass_breakdown declared schemas second
  refine ⟨(keys.split keyed).2.1, ?_⟩
  rw [checkMissing_breakdown batch missing, nested, explicit, (keys.split keyed).2.2,
    (type.split typed).2.2, slots]
  simp [breakdown, List.flatMap_map]

theorem checkFields_breakdown (known : schema ∈ rules.registry.schemas)
    (apart : Apart rules value schema) {answer : Option Node}
    (run : checkFields rules value schema record place s = (.ok answer, t)) :
    (checkKeys rules schema place record {}).1 = .ok () ∧
      ∃ own, OwnIssues rules schema place own ∧ t.issues.toList = s.issues.toList ++
        (breakdown rules value schema record place).flatMap Prod.snd ++ own := by
  let C := freePremises (L := .oblivious batch) id plain
  rw [checkFields_eq] at run
  obtain ⟨⟨draft, flawed⟩, s₁, filled, run⟩ := bind_eq_ok run
  obtain ⟨keyed, issues⟩ := fill_breakdown batch plain apart (eq_ok_of_watched filled).1
  refine ⟨keyed, ?_⟩
  cases flawed with
  | true =>
    cases run
    exact ⟨[], .inl rfl, by simp [issues]⟩
  | false =>
    obtain ⟨stopped, s₂, asked, run⟩ := bind_eq_ok run
    obtain ⟨-, rfl⟩ := Prod.mk.inj asked
    cases stopped with
    | true =>
      cases run
      exact ⟨[], .inl rfl, by simp [issues]⟩
    | false =>
      obtain ⟨passed, s₃, checked, run⟩ := bind_eq_ok run
      have check : Oblivious (checkNode rules schema draft place) fun _ => True :=
        checkNode_holds (C := C) (C.schema schema known) draft
      obtain ⟨-, -, own⟩ := check.split checked
      have same : t = s₃ := by
        cases passed <;> cases run <;> rfl
      exact ⟨_, .inr ⟨draft, rfl⟩, by rw [same, own, issues]⟩

theorem apart_of_registered (uncomputed : rules.registry.Every FieldSpec.Uncomputed)
    (stackless : ∀ s ∈ rules.registry.schemas, s.IgnoresStack) {name : String}
    (found : rules.registry.find? name = some schema) (levels : Nat) :
    Apart rules (checkValue rules (checkNodeAt rules levels) questionLimit) schema := by
  let C := freePremises (L := .oblivious batch) id plain
  let I := rules.registry.indifference (plain.mono fun _ h => h.builtin) uncomputed stackless
  have fields : ∀ spec ∈ schema.fields, spec.Every C.Admits := fun spec declared =>
    C.spec.field found declared
  have values := fun place : Place =>
    checkValue_holds (L := .oblivious batch) id plain levels place.depth
  have within := fun place => within_free (L := .oblivious batch) id plain place
  have blank : Draft.All C.stored { schema := schema.name } := fun _ no => by cases no
  refine ⟨fun spec declared raw place stack => ?_, fun spec declared => ?_,
    fun spec declared record place => ?_, fun slot declared place => ?_⟩
  · exact checkValue_restacked (I := I) levels spec
      (I.confined trivial found spec (List.mem_append_left _ declared)) raw place stack trivial
  · exact (uncomputed.field found declared).self
  · have single : ∀ other ∈ [spec], other.Every C.Admits :=
      List.forall_mem_singleton.mpr (fields spec declared)
    exact (firstPass_holds (C := C) (values place) (within place) trivial single blank).mono
      fun _ _ => trivial
  · have good : ∀ other ∈ [slot], other.Good C :=
      List.forall_mem_singleton.mpr ⟨fields slot.spec declared, fun _ _ _ => trivial⟩
    exact (secondPass_holds (C := C) (values place) (within place) good [] blank).mono
      fun _ _ => trivial

end

/-- The entries of a record that the schema does not accept. -/
def undeclared (schema : Schema) (record : Entries Value) : Entries Value :=
  record.filter fun e => !acceptsKey schema e.1

/-- The sections of a report that do not come from a field. -/
def without (field : String) (report : Report) : Report :=
  report.filter fun part => part.1 ≠ .field field

/-- Two sections of one origin have the same issues, in the same order unless they are about
undeclared keys that come in another order. -/
structure SameSection (ordered : Prop) (a b : IssueOrigin × List Issue) : Prop where
  origin : a.1 = b.1
  perm : a.2.Perm b.2
  order : (a.1 = .keys → ordered) → a.2 = b.2

theorem SameSection.refl (ordered : Prop) (a : IssueOrigin × List Issue) : SameSection ordered a a :=
  ⟨rfl, .refl _, fun _ => rfl⟩

theorem eq_of_sameSections {ordered : Prop} {as bs : Report}
    (same : List.Forall₂ (SameSection ordered) as bs) (h : ordered) : as = bs := by
  induction same with
  | nil => rfl
  | cons first _ ih => rw [ih, Prod.ext first.origin (first.order fun _ => h)]

theorem without_fields {f : String} {specs : List FieldSpec} {g g' : FieldSpec → List Issue}
    (same : ∀ spec ∈ specs, spec.name ≠ f → g spec = g' spec) :
    without f (specs.map fun spec => (.field spec.name, g spec)) =
      without f (specs.map fun spec => (.field spec.name, g' spec)) := by
  unfold without
  rw [List.filter_map, List.filter_map]
  refine List.map_congr_left fun spec kept => ?_
  obtain ⟨declared, other⟩ := List.mem_filter.mp kept
  rw [same spec declared (by simpa using other)]

variable {es es' : Entries Value} {f : FieldSpec}

/-- Records with the same under every key but that of a declared field have the same undeclared
entries, in some order. -/
theorem undeclared_perm (declared : f ∈ schema.fields)
    (agree : ∀ key, key ≠ f.name → es'.lookup key = es.lookup key)
    (distinct : (es.map Prod.fst).Nodup) (distinct' : (es'.map Prod.fst).Nodup) :
    (undeclared schema es).Perm (undeclared schema es') := by
  have nodup : ∀ {fs : Entries Value}, (fs.map Prod.fst).Nodup → (undeclared schema fs).Nodup :=
    fun h => (List.Nodup.of_map _ h).filter _
  refine (List.perm_ext_iff_of_nodup (nodup distinct) (nodup distinct')).mpr ?_
  rintro ⟨key, v⟩
  have other : acceptsKey schema key = false → key ≠ f.name := by
    rintro unknown rfl
    have accepted : acceptsKey schema f.name = true := by
      simp only [acceptsKey, Bool.or_eq_true, List.contains_iff_mem]
      exact .inl (.inl (List.mem_map_of_mem declared))
    cases unknown.symm.trans accepted
  have held : ∀ {fs : Entries Value}, (fs.map Prod.fst).Nodup →
      ((key, v) ∈ fs ↔ fs.lookup key = some v) := fun h =>
    ⟨Entries.lookup_of_mem h, Entries.mem_of_lookup⟩
  simp only [undeclared, List.mem_filter, Bool.not_eq_true', held distinct, held distinct']
  constructor
  · rintro ⟨mem, unknown⟩
    exact ⟨(agree key (other unknown)).trans mem, unknown⟩
  · rintro ⟨mem, unknown⟩
    exact ⟨(agree key (other unknown)).symm.trans mem, unknown⟩

theorem checkKeys_append (xs ys : List (String × Value)) :
    checkKeys rules schema place (xs ++ ys) =
      checkKeys rules schema place xs >>= fun _ => checkKeys rules schema place ys := by
  induction xs with
  | nil => simp [checkKeys]
  | cons e rest ih =>
    obtain ⟨key, v⟩ := e
    simp only [List.cons_append, checkKeys, ih]
    split
    · split <;> simp
    · simp

theorem recorded_checkKeys (batch : rules.errors = .batch)
    (plain : rules.registry.Every (FieldSpec.Memoryless rules.registry.kinds))
    (returned : (checkKeys rules schema place es {}).1 = .ok ()) :
    recorded (checkKeys rules schema place es) =
      (undeclared schema es).flatMap fun e => recorded (checkKeys rules schema place [e]) := by
  let C := freePremises (L := .oblivious batch) id plain
  rw [checkKeys_filter] at returned ⊢
  have item : ∀ e, Oblivious (checkKeys rules schema place [e]) fun _ => True := fun e =>
    checkKeys_holds (C := C) fun _ _ => trivial
  have run : checkKeys rules schema place (undeclared schema es) {} =
    (.ok (), (checkKeys rules schema place (undeclared schema es) {}).2) := Prod.ext returned rfl
  have issues := Oblivious.recorded_items rfl (fun e rest => checkKeys_append [e] rest) item run
  exact issues.trans (List.nil_append _)

theorem recorded_checkKeys_lenient (lenient : rules.unknownFields ≠ .strict) :
    recorded (checkKeys rules schema place es) = [] := by
  have quiet : ∀ s, ∃ t, checkKeys rules schema place es s = (.ok (), t) ∧ t.issues = s.issues := by
    induction es with
    | nil => exact fun s => ⟨s, rfl, rfl⟩
    | cons e rest ih =>
      obtain ⟨key, v⟩ := e
      intro s
      cases known : acceptsKey schema key with
      | true => simpa [checkKeys, known] using ih s
      | false =>
        cases mode : rules.unknownFields with
        | strict => exact absurd mode lenient
        | lenient =>
          let entry : LogEntry := ⟨.debug, s!"Ignoring unknown field {schema.name}.{key}"⟩
          obtain ⟨t, run, same⟩ := ih { s with log := s.log.push entry }
          refine ⟨t, ?_, same⟩
          simp only [checkKeys, known, mode, Bool.not_false, if_true]
          rw [← run]
          rfl
  obtain ⟨t, run, same⟩ := quiet {}
  simp [recorded, run, same]

/-- Records with the same under every key but that of one field, not called `type`, have the same
report but for that field. -/
theorem without_breakdown (batch : rules.errors = .batch)
    (plain : rules.registry.Every (FieldSpec.Memoryless rules.registry.kinds))
    (declared : f ∈ schema.fields) (untyped : f.name ≠ "type")
    (agree : ∀ key, key ≠ f.name → es'.lookup key = es.lookup key)
    (distinct : (es.map Prod.fst).Nodup) (distinct' : (es'.map Prod.fst).Nodup)
    (keyed : (checkKeys rules schema place es {}).1 = .ok ())
    (keyed' : (checkKeys rules schema place es' {}).1 = .ok ()) :
    List.Forall₂ (SameSection (rules.unknownFields = .strict →
        undeclared schema es = undeclared schema es'))
      (without f.name (breakdown rules value schema es place))
      (without f.name (breakdown rules value schema es' place)) := by
  have reads : ∀ key, key ≠ f.name → readKey es' key = readKey es key := fun key other => by
    simp only [readKey, agree key other]
  have type : checkType rules schema es' place = checkType rules schema es place := by
    simp only [checkType, reads "type" untyped.symm]
  have enters : ∀ spec ∈ schema.fields, spec.name ≠ f.name →
      enter rules value schema es place spec = enter rules value schema es' place spec :=
    fun spec _ other => firstPass_congr
      (List.forall_mem_singleton.mpr (reads spec.name other).symm) _
  have slots : ∀ spec ∈ schema.fields, spec.name ≠ f.name →
      fieldSlot rules value schema es place spec = fieldSlot rules value schema es' place spec :=
    fun spec hspec other => by simp only [fieldSlot, enters spec hspec other]
  have keys : SameSection (rules.unknownFields = .strict →
        undeclared schema es = undeclared schema es')
      (.keys, recorded (checkKeys rules schema place es))
      (.keys, recorded (checkKeys rules schema place es')) := by
    refine ⟨rfl, ?_, fun ordered => ?_⟩
    · rw [recorded_checkKeys batch plain keyed, recorded_checkKeys batch plain keyed']
      exact (undeclared_perm declared agree distinct distinct').flatMap_right _
    · by_cases strict : rules.unknownFields = .strict
      · rw [recorded_checkKeys batch plain keyed, recorded_checkKeys batch plain keyed',
          ordered rfl strict]
      · rw [recorded_checkKeys_lenient strict, recorded_checkKeys_lenient strict]
  -- What the two passes and the search for missing fields record, without that field.
  have fields := congrArg₂ (· ++ ·) (congrArg₂ (· ++ ·)
    (without_fields fun spec hspec other => congrArg recorded (enters spec hspec other))
    (without_fields fun spec hspec other => congrArg
      (fun slot => recorded (settle rules value schema place slot)) (slots spec hspec other)))
    (without_fields fun spec hspec other => congrArg
      (fun slot => recorded (checkMissing rules schema place [slot])) (slots spec hspec other))
  simp only [without, ← List.filter_append] at fields
  have shape : ∀ es, without f.name (breakdown rules value schema es place) =
      (.type, recorded (checkType rules schema es place)) ::
      (.keys, recorded (checkKeys rules schema place es)) :: without f.name (
        (schema.fields.map fun spec =>
          (.field spec.name, recorded (enter rules value schema es place spec))) ++
        (schema.fields.map fun spec => (.field spec.name, recorded
          (settle rules value schema place (fieldSlot rules value schema es place spec)))) ++
        schema.fields.map fun spec => (.field spec.name,
          recorded (checkMissing rules schema place
            [fieldSlot rules value schema es place spec]))) := by
    intro es
    simp [without, breakdown]
  rw [shape, shape, type]
  refine .cons (.refl _ _) (.cons keys ?_)
  simp only [without]
  rw [fields]
  exact List.forall₂_same.mpr fun a _ => .refl _ a

theorem levels_pred (m : Number) : levels m = levels m - 1 + 1 := by
  unfold levels
  split <;> rfl

theorem issues_of_outcome_ok {x : Except Fault (Option Node) × RunState} {result : ValidationResult}
    (h : outcome x = .ok result) : result.issues = x.2.issues.toList := by
  cases result with
  | invalid issues => exact issues_of_outcome h
  | valid n =>
    rcases x with ⟨_ | _ | m, t⟩
    · cases h
    · cases h
    · cases clean : t.issues.isEmpty with
      | true => simp [ValidationResult.issues, Array.isEmpty_iff.mp clean]
      | false => simp [outcome, clean] at h

end Validation

open Validation

/-- The root of a validation. -/
def ValidateOptions.root (o : ValidateOptions) : Place := ⟨[], o.stack, o.kwargs, 1⟩

theorem ValidateOptions.run_eq (o : ValidateOptions) (r : Registry) (raw : Value) (name : String) :
    o.run r raw name = checkNodeWith (o.rules r) (checkValue (o.rules r)
      (checkNodeAt (o.rules r) (levels o.maxDepth - 1)) questionLimit) raw name o.root := by
  unfold ValidateOptions.run
  rw [levels_pred]
  rfl

/-- The issues of a record at the root of a validation, by their origins. -/
def ValidateOptions.breakdown (o : ValidateOptions) (r : Registry) (schema : Schema)
    (record : Entries Value) : Report :=
  if o.maxDepth.lt o.root.depth then [(.depth, [tooDeep (o.rules r) []])]
  else Validation.breakdown (o.rules r) (checkValue (o.rules r)
    (checkNodeAt (o.rules r) (levels o.maxDepth - 1)) questionLimit) schema record o.root

section

variable {r : Registry} {o : ValidateOptions} {schema : Schema} {name : String}
  {memory memory' : Memory} {raw raw' : Value} {es es' : Entries Value}
  {result result' : ValidationResult}

/-- In batch mode the issues of a record are those of its parts, and those of the node's check. -/
theorem Registry.issues_eq_breakdown (plain : r.Every (FieldSpec.Memoryless r.kinds))
    (uncomputed : r.Every FieldSpec.Uncomputed) (stackless : ∀ s ∈ r.schemas, s.IgnoresStack)
    (batch : o.errors = .batch) (found : r.find? name = some schema)
    (shape : raw.entries? = some es)
    (returned : (r.validate memory raw name o).result = .ok result) :
    (o.maxDepth.lt o.root.depth = false → (checkKeys (o.rules r) schema o.root es {}).1 = .ok ()) ∧
      ∃ own, OwnIssues (o.rules r) schema o.root own ∧
        result.issues = (o.breakdown r schema es).flatMap Prod.snd ++ own := by
  rw [(validate_eq (frozen_of_ok returned) memory raw name o).1] at returned
  have issues := issues_of_outcome_ok returned
  obtain ⟨answer, t, run⟩ := outcome_eq_ok returned
  rw [run] at issues
  have going : ¬ RunState.Stopped (o.rules r).errors { memory } := fun stopped => stopped.2 rfl
  have registered : (o.rules r).registry.has name = true := by
    show r.has name = true
    rw [Registry.has, found]
    rfl
  cases deep : o.maxDepth.lt o.root.depth with
  | true =>
    -- The root itself is too deep, so that is all there is to report.
    rw [ValidateOptions.run_eq, checkNodeWith_tooDeep registered deep _ raw going] at run
    cases run
    refine ⟨?_, [], .inl rfl, ?_⟩
    · intro admitted
      cases admitted
    · rw [issues, ValidateOptions.breakdown, if_pos deep]
      rfl
  | false =>
    have opened : (o.rules r).maxDepth.lt o.root.depth = false := deep
    rw [ValidateOptions.run_eq, checkNodeWith, bind_of_ok (halted_of_going going)] at run
    simp only [Bool.false_eq_true, if_false, show (o.rules r).registry.find? name = some schema
      from found, opened, expand_of_entries shape, pure_bind] at run
    split at run
    next => cases run
    next =>
      have apart : Apart (o.rules r) (checkValue (o.rules r)
          (checkNodeAt (o.rules r) (levels o.maxDepth - 1)) questionLimit) schema :=
        apart_of_registered batch plain uncomputed stackless found _
      have known : schema ∈ (o.rules r).registry.schemas := List.mem_of_find?_eq_some found
      obtain ⟨keyed, own, lawful, sum⟩ := checkFields_breakdown batch plain known apart run
      refine ⟨fun _ => keyed, own, lawful, ?_⟩
      rw [issues, sum]
      simp [ValidateOptions.breakdown, deep]

/-- In batch mode, what is reported of two records that differ in one field alone differs in what
that field reports and in the node's own check only. Issues of undeclared keys come in the order of
the record. -/
theorem Registry.fields_independent
    (plain : r.Every (FieldSpec.Memoryless r.kinds)) (uncomputed : r.Every FieldSpec.Uncomputed)
    (stackless : ∀ s ∈ r.schemas, s.IgnoresStack) (batch : o.errors = .batch)
    (found : r.find? name = some schema) {f : FieldSpec} (declared : f ∈ schema.fields)
    (untyped : f.name ≠ "type") (shape : raw.entries? = some es) (shape' : raw'.entries? = some es')
    (distinct : (es.map Prod.fst).Nodup) (distinct' : (es'.map Prod.fst).Nodup)
    (agree : ∀ key, key ≠ f.name → es'.lookup key = es.lookup key)
    (returned : (r.validate memory raw name o).result = .ok result)
    (returned' : (r.validate memory' raw' name o).result = .ok result') :
    ∃ own own', OwnIssues (o.rules r) schema o.root own ∧ OwnIssues (o.rules r) schema o.root own' ∧
      result.issues = (o.breakdown r schema es).flatMap Prod.snd ++ own ∧
      result'.issues = (o.breakdown r schema es').flatMap Prod.snd ++ own' ∧
      List.Forall₂ (SameSection (o.unknownFields = .strict →
          undeclared schema es = undeclared schema es'))
        (without f.name (o.breakdown r schema es)) (without f.name (o.breakdown r schema es')) ∧
      ((o.unknownFields = .strict → undeclared schema es = undeclared schema es') →
        without f.name (o.breakdown r schema es) = without f.name (o.breakdown r schema es')) := by
  obtain ⟨keyed, own, lawful, sum⟩ :=
    issues_eq_breakdown plain uncomputed stackless batch found shape returned
  obtain ⟨keyed', own', lawful', sum'⟩ :=
    issues_eq_breakdown plain uncomputed stackless batch found shape' returned'
  have same : List.Forall₂ (SameSection (o.unknownFields = .strict →
        undeclared schema es = undeclared schema es'))
      (without f.name (o.breakdown r schema es)) (without f.name (o.breakdown r schema es')) := by
    cases deep : o.maxDepth.lt o.root.depth with
    | true =>
      rw [ValidateOptions.breakdown, ValidateOptions.breakdown, if_pos deep, if_pos deep]
      exact List.forall₂_same.mpr fun a _ => .refl _ a
    | false =>
      have opened : ¬ o.maxDepth.lt o.root.depth = true := Bool.eq_false_iff.mp deep
      rw [ValidateOptions.breakdown, ValidateOptions.breakdown, if_neg opened, if_neg opened]
      exact without_breakdown batch plain declared untyped agree distinct distinct' (keyed deep)
        (keyed' deep)
  exact ⟨own, own', lawful, lawful', sum, sum', same, eq_of_sameSections same⟩

end

namespace Orders

def line : Schema where
  name := "line"
  fields := [
    .leaf { name := "item", kind := "string" },
    .leaf { name := "count", kind := "integer" }]

def lines : FieldSpec :=
  .list { name := "lines", kind := "list" }
    (.leaf { name := "line", kind := "node", constraints := { target := some "line" } })

def order : Schema where
  name := "order"
  fields := [.leaf { name := "customer", kind := "string" }, lines,
    .leaf { name := "total", kind := "integer" }]

/-- Orders with a line that counts nothing, and without lines. -/
def registry : Registry where
  kinds := .builtin
  schemas := [line, order]
  frozen := true

theorem registry_plain : registry.Every fun s =>
    s.Memoryless registry.kinds ∧ s.Uncomputed := by
  have builtin : registry.Every (FieldSpec.Builtin registry.kinds) := by
    simp only [Registry.Every, FieldSpec.Every, registry, line, order, lines, Schema.allFields,
      FieldSpec.walk, List.forall_mem_cons, Option.map_none, Option.toList_none, List.append_nil,
      List.not_mem_nil, false_imp_iff, implies_true, and_true]
    exact ⟨⟨⟨.string, rfl, rfl⟩, ⟨.integer, rfl, rfl⟩⟩, ⟨.string, rfl, rfl⟩,
      ⟨⟨.list, rfl, rfl⟩, ⟨.node, rfl, rfl⟩⟩, ⟨.integer, rfl, rfl⟩⟩
  have pure : registry.Every fun s => s.FixedPattern ∧ s.PureDefault ∧ s.Uncomputed := by
    simp [Registry.Every, FieldSpec.Every, registry, line, order, lines, Schema.allFields,
      FieldSpec.walk, FieldSpec.FixedPattern, FieldSpec.PureDefault, FieldSpec.Uncomputed,
      FieldSpec.info]
  intro s hs top ht part hp
  obtain ⟨fixed, default, uncomputed⟩ := pure s hs top ht part hp
  exact ⟨⟨builtin s hs top ht part hp, fixed, default⟩, uncomputed⟩

theorem registry_stackless : ∀ s ∈ registry.schemas, s.IgnoresStack := by
  simp [registry, line, order, Schema.IgnoresStack]

/-- An order of a customer without a name and without a total. -/
def anonymous (lines : List Value) : Entries Value :=
  [("customer", .number 7), ("lines", .list lines)]

def uncounted : Value := .record [("item", .text "pen"), ("count", .text "none")] true

/-- Whether a line counts nothing or there is no line, the customer and the total are reported. -/
theorem lines_independent : ∃ issues issues',
    (registry.validate [] (.record (anonymous [uncounted]) true) "order" {}).result =
      .ok (.invalid issues) ∧
    (registry.validate [] (.record (anonymous []) true) "order" {}).result =
      .ok (.invalid issues') ∧
    issues.length = 3 ∧ issues'.length = 2 ∧
    without "lines" (ValidateOptions.breakdown {} registry order (anonymous [uncounted])) =
      without "lines" (ValidateOptions.breakdown {} registry order (anonymous [])) := by
  have first : (registry.validate [] (.record (anonymous [uncounted]) true) "order" {}).result =
    .ok (.invalid _) := rfl
  have second : (registry.validate [] (.record (anonymous []) true) "order" {}).result =
    .ok (.invalid _) := rfl
  have agree : ∀ key, key ≠ lines.name →
      (anonymous []).lookup key = (anonymous [uncounted]).lookup key := by
    intro key other
    have apart : (key == "lines") = false := beq_eq_false_iff_ne.mpr other
    simp [anonymous, List.lookup_cons, apart]
  have declared : lines ∈ order.fields := .tail _ (.head _)
  obtain ⟨_, _, -, -, -, -, -, same⟩ := Registry.fields_independent (o := {})
    (registry_plain.mono fun _ h => h.1) (registry_plain.mono fun _ h => h.2) registry_stackless
    rfl (show registry.find? "order" = some order from rfl) declared (by decide) rfl rfl
    (by decide) (by decide) agree first second
  exact ⟨_, _, first, second, rfl, rfl, same fun strict => by cases strict⟩

theorem registry_made : registry.Made := by
  have lines := Registry.Made.schema (.empty .builtin) (show Registry.register? _ line.name
    (.specs line.fields) line.info = .ok (_, line) from rfl)
  have orders := Registry.Made.schema lines (show Registry.register? _ order.name
    (.specs order.fields) order.info = .ok (_, order) from rfl)
  exact .frozen orders rfl rfl

/-- A good order with entries that it does not declare. -/
def noted (lines : List Value) (notes : List String) : Entries Value :=
  [("customer", .text "Ann"), ("lines", .list lines), ("total", .number 1)] ++
    notes.map fun note => (note, .bool true)

def counted : Value := .record [("item", .text "pen"), ("count", .number 1)] true

/-- In strict mode what an order does not declare is reported in the order of the record, so orders
that agree on every key but the lines, which are good, still have their issues in another order. -/
theorem notes_reported_in_order :
    registry.Made ∧
      registry.Every (fun s => s.Memoryless registry.kinds ∧ s.Uncomputed) ∧
      (∀ s ∈ registry.schemas, s.IgnoresStack) ∧ order.info.validator = none ∧
      lines ∈ order.fields ∧
      (∀ key, key ≠ lines.name →
        (noted [] ["rush", "gift"]).lookup key = (noted [counted] ["gift", "rush"]).lookup key) ∧
      ∃ gift rush : Issue, gift ≠ rush ∧
        (registry.validate [] (.record (noted [counted] ["gift", "rush"]) true) "order"
          { unknownFields := .strict }).result = .ok (.invalid [gift, rush]) ∧
        (registry.validate [] (.record (noted [] ["rush", "gift"]) true) "order"
          { unknownFields := .strict }).result = .ok (.invalid [rush, gift]) ∧
        (without lines.name (ValidateOptions.breakdown { unknownFields := .strict } registry order
          (noted [counted] ["gift", "rush"]))).flatMap Prod.snd = [gift, rush] ∧
        (without lines.name (ValidateOptions.breakdown { unknownFields := .strict } registry order
          (noted [] ["rush", "gift"]))).flatMap Prod.snd = [rush, gift] := by
  refine ⟨registry_made, registry_plain, registry_stackless, rfl, .tail _ (.head _), ?_, _, _, ?_,
    rfl, rfl, rfl, rfl⟩
  · intro key other
    have apart : (key == "lines") = false := beq_eq_false_iff_ne.mpr other
    by_cases rush : key = "rush"
    · rw [rush]
      rfl
    · by_cases gift : key = "gift"
      · rw [gift]
        rfl
      · have absent : ∀ note ∈ ["rush", "gift"], (key == note) = false := by simp [rush, gift]
        simp [noted, List.lookup_cons, apart, absent "rush", absent "gift"]
  · decide

end Orders

end ShapedTree
