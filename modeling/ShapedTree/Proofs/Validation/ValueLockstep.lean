import ShapedTree.Proofs.Kind.Inquiry
import ShapedTree.Proofs.Kind.Verdict
import ShapedTree.Proofs.Run.Lockstep
import ShapedTree.Proofs.Validation.Acceptance

namespace ShapedTree

open Run ShapedTree.Computation

/-- Relations of paths that hold below related paths. -/
structure PathRelation (P : List String → List String → Prop) : Prop where
  label : ∀ {p q : List String} (l : String), P p q → P (extendPath p l) (extendPath q l)
  segment : ∀ {p q : List String} (s : String), P p q → P (p ++ [s]) (q ++ [s])

/-- Places that differ in their paths only. -/
structure Place.Beside (P : List String → List String → Prop) (p q : Place) : Prop where
  setting : p.setting = q.setting
  path : P p.path q.path

namespace Place.Beside

variable {P : List String → List String → Prop} {p q : Place}

theorem stack_eq (h : p.Beside P q) : p.stack = q.stack := congrArg Setting.stack h.setting

theorem kwargs_eq (h : p.Beside P q) : p.kwargs = q.kwargs := congrArg Setting.kwargs h.setting

theorem depth_eq (h : p.Beside P q) : p.depth = q.depth := congrArg Setting.depth h.setting

theorem inside (h : p.Beside P q) (spec : FieldSpec) : (p.inside spec).Beside P (q.inside spec) :=
  ⟨congrArg (Setting.inside · spec) h.setting, h.path⟩

theorem below (h : p.Beside P q) (overrides : Option (Entries Value)) :
    (p.below overrides).Beside P (q.below overrides) where
  setting := by
    simp only [Place.below, Place.setting, h.stack_eq, h.kwargs_eq, h.depth_eq]
  path := h.path

theorem labelled (paths : PathRelation P) (h : p.Beside P q) (label : String) :
    (p.labelled label).Beside P (q.labelled label) :=
  ⟨h.setting, paths.label label h.path⟩

theorem field (paths : PathRelation P) (h : p.Beside P q) (schema name : String) :
    (p.field schema name).Beside P (q.field schema name) :=
  ⟨h.setting, paths.segment _ h.path⟩

end Place.Beside

/-- The pace of two runs: the second one stops like the first one, or at its first issue. -/
structure Pace (full quick : Rules) : Prop where
  rules : quick = { full with errors := quick.errors }
  errors : quick.errors = full.errors ∨ quick.errors = .failFast

variable {P : List String → List String → Prop} {full quick : Rules}

/-- One check of nodes is followed by another one. -/
def NodesFollow (P : List String → List String → Prop) (e : ErrorMode) (m n : NodeRun) : Prop :=
  ∀ raw name p q, p.Beside P q → Follows P e (· = none) (m raw name p) (n raw name q)

namespace Kind

variable {item item' key key' value value' : PartCheck Run}

theorem checkItems_follows (pace : Pace full quick)
    (h : ∀ raw label, Paired P quick.errors (item raw label) (item' raw label)) (index : Nat)
    (items : List Value) :
    Follows P quick.errors (· = none) (checkItems (halted full) item index items)
      (checkItems (halted quick) item' index items) := by
  induction items generalizing index with
  | nil => exact .pure _
  | cons raw rest ih =>
    refine (h raw _).follows.bind (fun first => ?_) ?_
    · refine Follows.guard rfl pace.errors (.pure trivial) ?_
      refine (ih (index + 1)).bind (fun others => ?_) ?_
      · cases first <;> cases others <;> exact .pure _
      rintro _ rfl
      cases first <;> exact .pure rfl
    · rintro _ rfl
      exact Inert.guard rfl (.pure rfl)

theorem checkEntries_follows (pace : Pace full quick) {byInteger : Bool}
    (hkey : ∀ raw label, Paired P quick.errors (key raw label) (key' raw label))
    (hvalue : ∀ raw label, Paired P quick.errors (value raw label) (value' raw label))
    (es : List (String × Value)) (failed : Bool) (done : Entries Value) :
    Follows P quick.errors (· = reported)
      (checkEntries (halted full) byInteger key value failed done es)
      (checkEntries (halted quick) byInteger key' value' failed done es) := by
  induction es generalizing failed done with
  | nil => exact .pure _
  | cons e rest ih =>
    obtain ⟨rawKey, rawValue⟩ := e
    have refused : Inert quick.errors (· = reported)
        (do if ← halted quick then pure reported
            else checkEntries (halted quick) byInteger key' value' true done rest) :=
      Inert.guard rfl (.pure rfl)
    refine (hkey _ _).follows.bind (fun k => ?_) ?_
    · refine (hvalue _ _).follows.bind (fun v => ?_) ?_
      · have next : ∀ failed done, Follows P quick.errors (· = reported)
            (do if ← halted full then
                  pure (if failed then reported
                    else .ok (.record (sortMapping byInteger done) true))
                else checkEntries (halted full) byInteger key value failed done rest)
            (do if ← halted quick then
                  pure (if failed then reported
                    else .ok (.record (sortMapping byInteger done) true))
                else checkEntries (halted quick) byInteger key' value' failed done rest) :=
          fun failed done => Follows.guard rfl pace.errors (.pure trivial) (ih failed done)
        split
        next k v =>
          split
          next => exact .pure _
          next => exact next failed _
        next => exact next true done
      · rintro _ rfl
        -- An entry whose value failed fails the mapping, whatever its key came to.
        cases k with
        | none => exact refused
        | some k => cases k <;> exact refused
    · rintro _ rfl
      refine (hvalue _ _).inert.bind ?_
      rintro _ rfl
      exact refused

end Kind

namespace Choice

variable {m n : NodeRun}

/-- What the try of one member comes to: a node and its messages, if there was no issue. -/
def attempt (x : Run (Option Node)) : Run (Option Match) := do
  let (found, issues, log) ← Run.trial x
  return if issues.isEmpty then found.map fun n => ⟨n, log⟩ else none

theorem matching_cons (node : NodeRun) (raw : Value) (place : Place) (schema : String)
    (rest : List String) :
    matching node raw place (schema :: rest) = do
      let first ← attempt (node raw schema place)
      let others ← matching node raw place rest
      return first.toList ++ others := by
  simp only [matching, attempt, bind_assoc, pure_bind]
  congr 1
  funext ⟨found, issues, log⟩
  congr 1
  funext others
  cases found with
  | none => simp
  | some n => cases issues.isEmpty <;> simp

/-- Two tries go side by side and never part, because each runs by itself. -/
theorem attempt_follows {e : ErrorMode} {x y : Run (Option Node)} (h : Follows P e (· = none) x y) :
    Follows P e (fun _ => False) (attempt x) (attempt y) where
  grows := h.grows.trial.bind fun _ => .pure fun _ => trivial
  tracks A B s t found s' step run := by
    obtain ⟨⟨a, issues, entries⟩, u, htrial, run⟩ := bind_eq_ok run
    obtain ⟨hfound, rfl⟩ := Prod.mk.inj run
    unfold Run.trial at htrial
    split at htrial
    next a' u' hx =>
      obtain ⟨heq, rfl⟩ := Prod.mk.inj htrial
      cases heq
      obtain ⟨b, v, hy, after⟩ := h.tracks [] [] _ _ _ _ (.fresh s.memory t.memory) hx
      have second : Run.trial y t = (.ok (b, v.issues, v.log), { t with memory := v.memory }) := by
        simp only [Run.trial, hy]
      refine ⟨_, { t with memory := v.memory }, by unfold attempt; rw [bind_of_ok second]; rfl,
        .inl ⟨⟨step.issues, step.log, step.going⟩, ?_⟩⟩
      cases hfound
      rcases after with ⟨step', rfl⟩ | ⟨parted, -⟩
      · have empty : v.issues.isEmpty = u'.issues.isEmpty := by
          rw [Bool.eq_iff_iff, Array.isEmpty_iff, Array.isEmpty_iff]
          exact step'.clean_iff.symm
        obtain ⟨d, hu, hv⟩ := step'.log
        have entries : v.log = u'.log := Array.toList_inj.mp (hv.trans hu.symm)
        rw [empty, entries]
      · have first : u'.issues.isEmpty = false := by
          simpa [RunState.Clean] using parted.not_clean
        have other : v.issues.isEmpty = false := by simpa using parted.stopped.2
        simp [first, other]
    next => cases (Prod.mk.inj htrial).1

theorem matching_follows (h : NodesFollow P quick.errors m n) {p q : Place}
    (beside : p.Beside P q) (raw : Value) (names : List String) :
    Follows P quick.errors (fun _ => False) (matching m raw p names) (matching n raw q names) := by
  induction names with
  | nil => exact .pure _
  | cons name rest ih =>
    rw [matching_cons, matching_cons]
    refine (attempt_follows (h raw name p q beside)).bind_together fun first => ?_
    exact ih.bind_together fun others => .pure _

theorem byType_follows (pace : Pace full quick) (h : NodesFollow P quick.errors m n) {p q : Place}
    (beside : p.Beside P q) (raw : Value) (group : String) (members : List (String × String))
    (types : List String) (type : Value) :
    Follows P quick.errors (· = none) (byType full m raw group p members types type)
      (byType quick n raw group q members types type) := by
  unfold byType
  split
  next target _ => exact h raw target p q beside
  next =>
    refine (Follows.lift _).bind_together fun shown => ?_
    refine (Follows.report rfl pace.errors beside.path _ _ _ _).bind (fun _ => .pure none) ?_
    exact fun _ _ => .pure rfl

theorem byFit_follows (pace : Pace full quick) (h : NodesFollow P quick.errors m n) {p q : Place}
    (beside : p.Beside P q) (raw : Value) (group : String) (members : List (String × String))
    (types : List String) :
    Follows P quick.errors (· = none) (byFit full m raw group p members types)
      (byFit quick n raw group q members types) := by
  unfold byFit
  refine (matching_follows h beside raw _).bind_together fun found => ?_
  split
  next found => exact (Follows.adopt _).bind_together fun _ => .pure _
  next =>
    refine (Follows.report rfl pace.errors beside.path _ _ _ _).bind (fun _ => .pure none) ?_
    exact fun _ _ => .pure rfl

theorem check_paired (pace : Pace full quick) (h : NodesFollow P quick.errors m n) {p q : Place}
    (beside : p.Beside P q) (raw : Value) (group : String) :
    Paired P quick.errors (check full m raw group p) (check quick n raw group q) where
  follows := by
    have members : quick.registry = full.registry := by rw [pace.rules]
    unfold check
    rw [members]
    refine Follows.guard rfl pace.errors (.pure trivial) ?_
    simp only
    split
    next type _ => exact byType_follows pace h beside raw group _ _ type
    next =>
      split
      next only _ => exact h raw only p q beside
      next =>
        split
        next =>
          refine (Follows.report rfl pace.errors beside.path _ _ _ _).bind (fun _ => .pure none) ?_
          exact fun _ _ => .pure rfl
        next => exact byFit_follows pace h beside raw group _ _
  inert := by
    unfold check
    exact Inert.guard rfl (.pure rfl)

end Choice

namespace Validation

variable {m n : NodeRun} {other other' : ValueRun}

/-- The checks of a specification's parts go side by side. -/
inductive PartsPaired (P : List String → List String → Prop) (e : ErrorMode) :
    PartChecks Run → PartChecks Run → Prop
  | none : PartsPaired P e .none .none
  | list {check check' : PartCheck Run}
      (h : ∀ raw label, Paired P e (check raw label) (check' raw label)) :
      PartsPaired P e (.list check) (.list check')
  | mapping {byInteger : Bool} {key key' value value' : PartCheck Run}
      (hkey : ∀ raw label, Paired P e (key raw label) (key' raw label))
      (hvalue : ∀ raw label, Paired P e (value raw label) (value' raw label)) :
      PartsPaired P e (.mapping byInteger key value) (.mapping byInteger key' value')
  | either {primitive primitive' complex complex' : PartCheck Run}
      (hprimitive : ∀ raw label, Paired P e (primitive raw label) (primitive' raw label))
      (hcomplex : ∀ raw label, Paired P e (complex raw label) (complex' raw label)) :
      PartsPaired P e (.either primitive complex) (.either primitive' complex')

/-- A failure of a part fails the whole without a finding of its own. -/
theorem kind_follows (pace : Pace full quick) (h : NodesFollow P quick.errors m n) {p q : Place}
    (beside : p.Beside P q) {k : BuiltinKind} {spec : FieldSpec} (fixed : spec.FixedPattern)
    {parts parts' : PartChecks Run} (hparts : PartsPaired P quick.errors parts parts')
    (raw : Value) :
    Follows P quick.errors (· = Kind.reported)
      (k.check (context full m other spec p) parts spec.info raw)
      (k.check (context quick n other' spec q) parts' spec.info raw) := by
  cases flat : k.isNested with
  | false =>
    rw [BuiltinKind.check_eq_verdict flat fixed rfl, BuiltinKind.check_eq_verdict flat fixed rfl]
    exact .pure _
  | true =>
    obtain ⟨q, asks, same⟩ := BuiltinKind.check_asks flat spec.info raw
    rw [same, same]
    cases asks with
    | mismatch | length => exact .pure _
    | @node target =>
      refine (h raw target _ _ ((beside.inside spec).below _)).bind (fun answer => .pure _) ?_
      rintro _ rfl
      exact .pure rfl
    | @choice group =>
      refine (Choice.check_paired pace h ((beside.inside spec).below _) raw group).follows.bind
        (fun answer => .pure _) ?_
      rintro _ rfl
      exact .pure rfl
    | @items vs =>
      cases hparts with
      | list hitem =>
        refine (Kind.checkItems_follows pace hitem 0 vs).bind (fun answer => .pure _) ?_
        rintro _ rfl
        exact .pure rfl
      | _ => exact .pure _
    | @entries es =>
      cases hparts with
      | mapping hkey hvalue => exact Kind.checkEntries_follows pace hkey hvalue es false []
      | _ => exact .pure _
    | form =>
      cases hparts with
      | @either primitive primitive' complex complex' hprimitive hcomplex =>
        have form : Paired P quick.errors ((if raw.isPrimitive then primitive else complex) raw "")
            ((if raw.isPrimitive then primitive' else complex') raw "") := by
          cases raw.isPrimitive with
          | true => exact hprimitive raw ""
          | false => exact hcomplex raw ""
        refine form.follows.bind (fun answer => .pure _) ?_
        rintro _ rfl
        exact .pure rfl
      | _ => exact .pure _

theorem checkAccepted_follows (pace : Pace full quick) {path path' : List String}
    (related : P path path') (spec : FieldSpec) (raw v : Value) :
    Follows P quick.errors (· = none) (checkAccepted full spec raw v path)
      (checkAccepted quick spec raw v path') := by
  cases validator : spec.info.constraints.validator with
  | none =>
    simp only [checkAccepted, validator]
    exact .pure _
  | some check =>
    simp only [checkAccepted, validator]
    refine (Follows.lift (check v)).bind_together fun verdict => ?_
    cases verdict with
    | pass => exact .pure _
    | fail =>
      refine (Follows.report rfl pace.errors related _ _ _ _).bind (fun _ => .pure none) ?_
      exact fun _ _ => .pure rfl
    | failWith =>
      refine (Follows.report rfl pace.errors related _ _ _ _).bind (fun _ => .pure none) ?_
      exact fun _ _ => .pure rfl

theorem reportAll_inert {path : List String} {raw : Value} (findings : List Finding) :
    Inert quick.errors (fun _ => True) (findings.forM (reportFinding quick path raw)) := by
  induction findings with
  | nil => exact .pure trivial
  | cons f fs ih => exact (Inert.report rfl).bind fun _ _ => ih

theorem reportAll_follows (pace : Pace full quick) {path path' : List String}
    (related : P path path') (raw : Value) (findings : List Finding) :
    Follows P quick.errors (fun _ => True) (findings.forM (reportFinding full path raw))
      (findings.forM (reportFinding quick path' raw)) := by
  induction findings with
  | nil => exact .pure _
  | cons f fs ih =>
    exact (Follows.report rfl pace.errors related _ _ _ _).bind (fun _ => ih) fun _ _ =>
      reportAll_inert fs

theorem checkWith_paired (pace : Pace full quick) {path path' : List String}
    (related : P path path') {ctx ctx' : KindContext Run} {parts parts' : PartChecks Run}
    {spec : FieldSpec} {raw : Value}
    (h : Follows P quick.errors (· = Kind.reported)
      (full.registry.kinds.check spec.kind ctx parts spec raw)
      (full.registry.kinds.check spec.kind ctx' parts' spec raw)) :
    Paired P quick.errors (checkWith full ctx parts spec raw path)
      (checkWith quick ctx' parts' spec raw path') where
  follows := by
    have kinds : quick.registry = full.registry := by rw [pace.rules]
    unfold checkWith
    rw [kinds]
    refine Follows.guard rfl pace.errors (.pure trivial) ?_
    split
    next =>
      split
      next => exact .pure _
      next =>
        refine (Follows.report rfl pace.errors related _ _ _ _).bind (fun _ => .pure none) ?_
        exact fun _ _ => .pure rfl
    next =>
      split
      next =>
        refine (Follows.report rfl pace.errors related _ _ _ _).bind (fun _ => .pure none) ?_
        exact fun _ _ => .pure rfl
      next =>
        refine h.bind (fun result => ?_) ?_
        · cases result with
          | error findings =>
            exact (reportAll_follows pace related raw findings).bind (fun _ => .pure none)
              fun _ _ => .pure rfl
          | ok v => exact checkAccepted_follows pace related spec raw v
        · rintro _ rfl
          exact .pure rfl
  inert := by
    unfold checkWith
    exact Inert.guard rfl (.pure rfl)

/-- Two checks of a value against a specification go side by side. -/
theorem checkSpec_paired (paths : PathRelation P) (pace : Pace full quick)
    (h : NodesFollow P quick.errors m n) {spec : FieldSpec}
    (plain : spec.Every (FieldSpec.Memoryless full.registry.kinds)) (raw : Value) {p q : Place}
    (beside : p.Beside P q) :
    Paired P quick.errors (checkSpec full m other spec raw p) (checkSpec quick n other' spec raw q) := by
  induction spec generalizing raw p q with
  | leaf info =>
    obtain ⟨k, known⟩ := plain.self.builtin
    refine checkWith_paired pace beside.path ?_
    rw [known.check_eq, known.check_eq]
    exact kind_follows pace h beside plain.self.fixed .none raw
  | list info item ih =>
    obtain ⟨k, known⟩ := plain.self.builtin
    refine checkWith_paired pace beside.path ?_
    rw [known.check_eq, known.check_eq]
    refine kind_follows pace h beside plain.self.fixed (.list fun raw label => ?_) raw
    exact ih plain.item raw ((beside.inside _).labelled paths label)
  | mapping info key value ihKey ihValue =>
    obtain ⟨k, known⟩ := plain.self.builtin
    refine checkWith_paired pace beside.path ?_
    rw [known.check_eq, known.check_eq]
    refine kind_follows pace h beside plain.self.fixed
      (.mapping (fun raw label => ?_) fun raw label => ?_) raw
    · exact ihKey plain.key raw ((beside.inside _).labelled paths label)
    · exact ihValue plain.value raw ((beside.inside _).labelled paths label)
  | either info primitive complex ihPrimitive ihComplex =>
    obtain ⟨k, known⟩ := plain.self.builtin
    refine checkWith_paired pace beside.path ?_
    rw [known.check_eq, known.check_eq]
    refine kind_follows pace h beside plain.self.fixed
      (.either (fun raw label => ?_) fun raw label => ?_) raw
    · exact ihPrimitive plain.primitive raw ((beside.inside _).labelled paths label)
    · exact ihComplex plain.complex raw ((beside.inside _).labelled paths label)

end Validation

end ShapedTree
