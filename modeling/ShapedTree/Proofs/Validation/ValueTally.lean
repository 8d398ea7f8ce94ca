import ShapedTree.Proofs.Kind.Inquiry
import ShapedTree.Proofs.Run.Tally
import ShapedTree.Proofs.Validation.HeldNodes
import ShapedTree.Proofs.Value.Nodes

namespace ShapedTree

open Run

/-- An answer, if there is one, weighs as much as was counted. -/
def Charged {α : Type} (weight : α → Multiset String) (answer : Option α) (w : Multiset String) :
    Prop := ∀ a, answer = some a → w = weight a

theorem Charged.none {α : Type} {weight : α → Multiset String} {w : Multiset String} :
    Charged weight Option.none w := nofun

theorem Charged.some {α : Type} {weight : α → Multiset String} {a : α} {w : Multiset String}
    (h : w = weight a) : Charged weight (Option.some a) w := by
  intro b same
  cases same
  exact h

variable {rules : Rules} {weigh : Node → Multiset String} {node : NodeRun} {other : ValueRun}

/-- Every check of nodes warns as much as the node that it answers with weighs. -/
def NodesTally (weigh : Node → Multiset String) (node : NodeRun) : Prop :=
  ∀ raw name place, Tallies (node raw name place)
    (Charged fun n => (Value.node n).weight weigh)

/-- A check of a part warns as much as the value that it answers with weighs. -/
def PartTallies (weigh : Node → Multiset String) (part : PartCheck Run) : Prop :=
  ∀ raw label, Tallies (part raw label) (Charged (Value.weight weigh))

namespace Kind

/-- A kind's result, if it is a value, weighs as much as was counted. -/
def Charged (weigh : Node → Multiset String) (result : KindResult) (w : Multiset String) : Prop :=
  ∀ v, result = .ok v → w = v.weight weigh

theorem Charged.error {findings : List Finding} {w : Multiset String} :
    Charged weigh (.error findings) w := nofun

theorem Charged.ok {v : Value} {w : Multiset String} (h : w = v.weight weigh) :
    Charged weigh (.ok v) w := by
  intro u same
  cases same
  exact h

theorem checkItems_tallies {item : PartCheck Run} (h : PartTallies weigh item) (items : List Value)
    (index : Nat) : Tallies (checkItems (halted rules) item index items)
      (ShapedTree.Charged fun vs => (vs.map (Value.weight weigh)).sum) := by
  induction items generalizing index with
  | nil => exact .pure (.some rfl)
  | cons raw rest ih =>
    refine (h raw _).bind fun first => .guard (.pure trivial) ?_
    refine (ih (index + 1)).bind fun others => ?_
    cases first with
    | none => exact .pure fun _ _ _ _ => .none
    | some v =>
      cases others with
      | none => exact .pure fun _ _ _ _ => .none
      | some vs =>
        refine .pure fun w counted w' counted' => .some ?_
        rw [counted vs rfl, counted' v rfl, add_zero, List.map_cons, List.sum_cons]

/-- A mapping weighs as much as its entries, in whatever order. -/
theorem weight_sortMapping {byInteger : Bool} {es : Entries Value}
    (distinct : (es.map Prod.fst).Nodup) :
    (Value.record (sortMapping byInteger es) true).weight weigh =
      (es.map fun e => e.2.weight weigh).sum := by
  have sorted : (sortMapping byInteger es).Perm es := by
    rw [sortMapping_eq]
    have perm := List.mergeSort_perm es fun a b => keyLE byInteger a.1 b.1
    exact (Record.ofList_perm ((perm.map Prod.fst).nodup_iff.mpr distinct)).trans perm
  rw [Value.weight_record]
  exact (sorted.map _).sum_eq

/-- A mapping comes to a value only if no entry failed, and then all were counted. -/
theorem checkEntries_tallies {byInteger : Bool} {key value : PartCheck Run}
    (hkey : PartTallies weigh key) (hvalue : PartTallies weigh value)
    (es : List (String × Value)) (failed : Bool) {done : Entries Value}
    (distinct : (done.map Prod.fst).Nodup) :
    Tallies (checkEntries (halted rules) byInteger key value failed done es) fun result w =>
      ∀ v, result = .ok v → failed = false ∧
        (done.map fun e => e.2.weight weigh).sum + w = v.weight weigh := by
  induction es generalizing failed done with
  | nil =>
    refine .pure fun v same => ?_
    cases failed with
    | true => cases same
    | false =>
      cases same
      exact ⟨rfl, by rw [add_zero, weight_sortMapping distinct]⟩
  | cons e rest ih =>
    have refused : Tallies (do
        if ← halted rules then return reported
        else checkEntries (halted rules) byInteger key value true done rest) fun result _ =>
          ∀ v, result ≠ .ok v := by
      refine .guard (.pure trivial) ((ih true distinct).mono fun result w h v same => ?_)
      cases (h v same).1
    refine (hkey _ _).bind fun k => (hvalue _ _).bind fun v => ?_
    split
    next name value =>
      split
      next => exact .pure fun _ _ _ _ _ no => by cases no
      next new =>
        rw [Bool.not_eq_true] at new
        have longer := Record.insert_perm new value
        have step := ih failed (Record.nodup_insert distinct name value)
        refine .guard (.pure trivial) (step.mono fun result w h w₂ hv w₁ hk u same => ?_)
        obtain ⟨ok, counted⟩ := h u same
        refine ⟨ok, ?_⟩
        rw [(longer.map _).sum_eq, List.map_cons, List.sum_cons] at counted
        rw [hk _ rfl, hv _ rfl, Value.weight_text, zero_add, ← counted, ← add_assoc]
        exact congrArg (· + w) (add_comm _ _)
    next => exact refused.mono fun result w never _ _ _ _ v same => absurd same (never v)

end Kind

namespace Choice

/-- Every match carries the warnings that its node weighs; nothing is logged while they are found. -/
theorem matching_tallies (h : NodesTally weigh node) (raw : Value) (place : Place)
    (names : List String) :
    Tallies (matching node raw place names) fun found w => w = 0 ∧
      ∀ m ∈ found, tally m.log.toList = (Value.node m.node).weight weigh := by
  induction names with
  | nil => exact .pure ⟨rfl, List.forall_mem_nil _⟩
  | cons name rest ih =>
    refine (h raw name place).trial.bind fun tried => ih.bind fun others => ?_
    obtain ⟨answer, issues, log⟩ := tried
    cases answer with
    | none =>
      refine .pure ?_
      rintro w ⟨rfl, all⟩ w' ⟨rfl, -⟩
      exact ⟨rfl, all⟩
    | some n =>
      refine .pure ?_
      rintro w ⟨rfl, all⟩ w' ⟨rfl, counted⟩
      refine ⟨rfl, ?_⟩
      split
      next clean =>
        refine List.forall_mem_cons.mpr ⟨?_, all⟩
        exact counted (Array.isEmpty_iff.mp clean) n rfl
      next => exact all

theorem byType_tallies (h : NodesTally weigh node) (raw : Value) (group : String) (place : Place)
    (members : List (String × String)) (types : List String) (type : Value) :
    Tallies (byType rules node raw group place members types type)
      (Charged fun n => (Value.node n).weight weigh) := by
  unfold byType
  split
  next target _ => exact h raw target place
  next =>
    refine .after (.lift type.json) (.lift _) fun shown => ?_
    exact .refuse

/-- Of all members that were tried, only the one that is taken has warned. -/
theorem byFit_tallies (h : NodesTally weigh node) (raw : Value) (group : String) (place : Place)
    (members : List (String × String)) (types : List String) :
    Tallies (byFit rules node raw group place members types)
      (Charged fun n => (Value.node n).weight weigh) := by
  unfold byFit
  refine (matching_tallies h raw place _).bind fun found => ?_
  split
  next m =>
    refine (Tallies.adopt _).bind fun _ => .pure ?_
    rintro w counted w' ⟨rfl, all⟩
    refine .some ?_
    rw [counted, zero_add, add_zero]
    exact all m (List.mem_singleton.mpr rfl)
  next => exact .refuse

theorem check_tallies (h : NodesTally weigh node) (raw : Value) (group : String) (place : Place) :
    Tallies (check rules node raw group place)
      (Charged fun n => (Value.node n).weight weigh) := by
  unfold check
  refine .guard (.pure trivial) ?_
  simp only
  split
  next type _ => exact byType_tallies h raw group place _ _ type
  next =>
    split
    next => exact h raw _ place
    next =>
      split
      next => exact .refuse
      next => exact byFit_tallies h raw group place _ _

end Choice

/-- A kind without parts logs nothing. -/
theorem BuiltinKind.check_silent {k : BuiltinKind} (flat : k.isNested = false) {info : FieldInfo}
    {ctx : KindContext Run} (tests : ctx.test = Run.test) (parts : PartChecks Run) (raw : Value) :
    Silent (k.check ctx parts info raw) := by
  have text : Silent (Kind.checkText Run.test info.constraints raw) := by
    cases raw with
    | text s =>
      simp only [Kind.checkText]
      cases Kind.textLength info.constraints (Text.size s) with
      | some f => exact .pure _
      | none =>
        cases info.constraints.pattern with
        | none => exact .pure _
        | some p =>
          refine (Silent.test p s).bind fun found => ?_
          cases found <;> exact .pure _
    | _ => exact .pure _
  cases k with
  | node | choice | list | mapping | either => cases flat
  | string | identifier | pattern =>
    simp only [check, tests]
    exact text.bind fun _ => .pure _
  | _ => exact .pure _

namespace Validation

/-- The checks of a specification's parts warn as much as their answers weigh. -/
inductive PartsTally (weigh : Node → Multiset String) : PartChecks Run → Prop
  | none : PartsTally weigh .none
  | list {item : PartCheck Run} (h : PartTallies weigh item) : PartsTally weigh (.list item)
  | mapping {byInteger : Bool} {key value : PartCheck Run} (hkey : PartTallies weigh key)
      (hvalue : PartTallies weigh value) : PartsTally weigh (.mapping byInteger key value)
  | either {primitive complex : PartCheck Run} (hprimitive : PartTallies weigh primitive)
      (hcomplex : PartTallies weigh complex) : PartsTally weigh (.either primitive complex)

/-- A kind without parts warns of nothing. -/
theorem flat_tallies {k : BuiltinKind} (flat : k.isNested = false) {spec : FieldSpec}
    (parts : PartChecks Run) (raw : Value) (place : Place) :
    Tallies (k.check (context rules node other spec place) parts spec.info raw)
      (Kind.Charged weigh) := by
  have bare : Grants (k.check (context rules node other spec place) parts spec.info raw)
      (Kind.Settles fun v => k.verdict spec.info.constraints.patternless raw = .ok v) :=
    BuiltinKind.check_grants flat rfl parts raw
  refine .silent bare.ensures (BuiltinKind.check_silent flat rfl parts raw) ?_
  intro result settles v same
  rcases settles with ⟨f, fs, rfl⟩ | ⟨u, rfl, verdict⟩
  · cases same
  · cases same
    exact (Value.weight_of_bare weigh (BuiltinKind.bare_of_verdict flat verdict)).symm

theorem ofNode_tallies (answer : Option Node) : Tallies (pure (Kind.ofNode answer)) fun result w =>
    ∀ v, Charged (fun n => (Value.node n).weight weigh) answer v →
      Kind.Charged weigh result (v + w) := by
  cases answer with
  | none => exact .pure fun _ _ => .error
  | some n => exact .pure fun w counted => .ok (by rw [add_zero, counted n rfl])

theorem ofItems_tallies (answer : Option (List Value)) :
    Tallies (pure (Kind.ofItems answer)) fun result w =>
      ∀ v, Charged (fun vs => (vs.map (Value.weight weigh)).sum) answer v →
        Kind.Charged weigh result (v + w) := by
  cases answer with
  | none => exact .pure fun _ _ => .error
  | some vs =>
    refine .pure fun w counted => .ok ?_
    rw [add_zero, counted vs rfl, Value.weight_list]

theorem ofForm_tallies (answer : Option Value) : Tallies (pure (Kind.ofForm answer)) fun result w =>
    ∀ v, Charged (Value.weight weigh) answer v → Kind.Charged weigh result (v + w) := by
  cases answer with
  | none => exact .pure fun _ _ => .error
  | some v => exact .pure fun w counted => .ok (by rw [add_zero, counted v rfl])

/-- A built-in kind warns as much as what it makes of a value weighs. -/
theorem builtin_tallies (h : NodesTally weigh node) (k : BuiltinKind) {spec : FieldSpec}
    {parts : PartChecks Run} (hparts : PartsTally weigh parts) (raw : Value) (place : Place) :
    Tallies (k.check (context rules node other spec place) parts spec.info raw)
      (Kind.Charged weigh) := by
  cases flat : k.isNested with
  | false => exact flat_tallies flat parts raw place
  | true =>
    obtain ⟨q, asks, same⟩ := BuiltinKind.check_asks flat spec.info raw
    rw [same]
    cases asks with
    | mismatch | length => exact .pure .error
    | node => exact (h raw _ _).bind ofNode_tallies
    | choice => exact (Choice.check_tallies h raw _ _).bind ofNode_tallies
    | @items vs =>
      cases hparts with
      | list hitem => exact (Kind.checkItems_tallies hitem vs 0).bind ofItems_tallies
      | _ => exact .pure .error
    | @entries es =>
      cases hparts with
      | mapping hkey hvalue =>
        have empty : (([] : Entries Value).map Prod.fst).Nodup := List.nodup_nil
        refine (Kind.checkEntries_tallies hkey hvalue es false empty).mono ?_
        intro result w counted v same
        rw [← (counted v same).2]
        exact (zero_add w).symm
      | _ => exact .pure .error
    | form =>
      cases hparts with
      | @either checkP checkC hprimitive hcomplex =>
        refine Tallies.bind (P := Charged (Value.weight weigh)) ?_ ofForm_tallies
        split
        · exact hprimitive raw ""
        · exact hcomplex raw ""
      | _ => exact .pure .error

/-- The extra check of a value logs nothing and leaves the value as it is. -/
theorem checkAccepted_tallies (spec : FieldSpec) (raw v : Value) (path : List String) :
    Tallies (checkAccepted rules spec raw v path) fun answer w => w = 0 ∧ ∀ u ∈ answer, u = v := by
  have held : Tallies (pure (if v.isUndefined then none else some v) : Run (Option Value))
      fun answer w => w = 0 ∧ ∀ u ∈ answer, u = v := by
    refine .pure ⟨rfl, fun u hu => ?_⟩
    split at hu
    · cases hu
    · exact (Option.some.inj hu).symm
  cases validator : spec.info.constraints.validator with
  | none =>
    simp only [checkAccepted, validator]
    exact held
  | some check =>
    simp only [checkAccepted, validator]
    refine .after (.lift (check v)) (.lift _) fun verdict => ?_
    cases verdict with
    | pass => exact held.mono fun _ _ h _ => h
    | fail | failWith => exact .refuse

theorem checkWith_tallies {ctx : KindContext Run} {parts : PartChecks Run} {spec : FieldSpec}
    {raw : Value} {path : List String}
    (h : Tallies (rules.registry.kinds.check spec.kind ctx parts spec raw) (Kind.Charged weigh)) :
    Tallies (checkWith rules ctx parts spec raw path) (Charged (Value.weight weigh)) := by
  unfold checkWith
  refine .guard (.pure trivial) ?_
  split
  next =>
    split
    next => exact .pure (.some rfl)
    next => exact .refuse
  next =>
    split
    next => exact .refuse
    next =>
      refine h.bind fun result => ?_
      cases result with
      | error findings =>
        have reports : ∀ fs : List Finding,
            Tallies (fs.forM (reportFinding rules path raw)) fun _ _ => True := by
          intro fs
          induction fs with
          | nil => exact .pure trivial
          | cons f fs ih =>
            refine Tallies.bind (P := fun _ _ => True) .report fun _ => ?_
            exact ih.mono fun _ _ _ _ _ => trivial
        exact (reports findings).bind fun _ => .pure fun _ _ _ _ => .none
      | ok v =>
        refine (checkAccepted_tallies spec raw v path).mono ?_
        rintro answer w ⟨rfl, same⟩ u counted a rfl
        rw [same a rfl, add_zero, counted v rfl]

/-- In a registry of built-in kinds, every check of values warns as much as its answer weighs. -/
theorem checkSpec_tallies (h : NodesTally weigh node) {spec : FieldSpec}
    (builtin : spec.Every (FieldSpec.Builtin rules.registry.kinds)) (raw : Value) (place : Place) :
    Tallies (checkSpec rules node other spec raw place) (Charged (Value.weight weigh)) := by
  have whole : ∀ {spec : FieldSpec} {parts : PartChecks Run} {raw : Value} {place : Place},
      spec.Builtin rules.registry.kinds → PartsTally weigh parts →
      Tallies (checkWith rules (context rules node other spec place) parts spec raw place.path)
        (Charged (Value.weight weigh)) := by
    intro spec parts raw place builtin hparts
    obtain ⟨k, known⟩ := builtin
    refine checkWith_tallies ?_
    rw [known.check_eq]
    exact builtin_tallies h k hparts raw place
  induction spec generalizing raw place with
  | leaf info => exact whole builtin.self .none
  | list info item ih =>
    exact whole builtin.self (.list fun raw label => ih builtin.item raw _)
  | mapping info key value ihKey ihValue =>
    exact whole builtin.self
      (.mapping (fun raw label => ihKey builtin.key raw _)
        fun raw label => ihValue builtin.value raw _)
  | either info primitive complex ihPrimitive ihComplex =>
    exact whole builtin.self
      (.either (fun raw label => ihPrimitive builtin.primitive raw _)
        fun raw label => ihComplex builtin.complex raw _)

end Validation

end ShapedTree
