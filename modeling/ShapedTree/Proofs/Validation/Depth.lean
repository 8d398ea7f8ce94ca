import Mathlib.Data.Prod.Lex
import ShapedTree.Proofs.Validation.Resolution
import ShapedTree.Proofs.Validation.Totality

namespace ShapedTree

open Run ShapedTree.Computation

theorem FieldSpec.length_walk_lt {spec part : FieldSpec} (h : part ∈ spec.parts) :
    part.walk.length < spec.walk.length := by
  have below : part.walk.length ≤ (spec.parts.flatMap FieldSpec.walk).length := by
    obtain ⟨before, after, parts⟩ := List.append_of_mem h
    rw [parts, List.flatMap_append, List.flatMap_cons]
    simp only [List.length_append]
    omega
  rw [spec.walk_eq, List.length_cons]
  omega

namespace Validation

variable {rules : Rules} {n : Nat}

/-- The rank of a call where `n` levels are admitted: the levels that are left, the phase, and the
size of the specification. A node goes before a choice and a choice before a value, because they
make no calls of a later phase on their own level. -/
def Call.rank (n : Nat) : Call → ℕ ×ₗ ℕ ×ₗ ℕ
  | .node _ _ place => toLex (n + 2 - place.depth, toLex (0, 0))
  | .choice _ _ place => toLex (n + 2 - place.depth, toLex (1, 0))
  | .value spec _ place => toLex (n + 1 - place.depth, toLex (2, spec.walk.length))

theorem Calls.rank_lt (bound : rules.maxDepth.floorNat = some n) {call callee : Call}
    (h : Calls rules call callee) : callee.rank n < call.rank n := by
  -- A part stays on the level of its specification, and is a smaller one.
  have part : ∀ {spec part : FieldSpec} {raw v : Value} {place p : Place},
      Calls rules (.value spec raw place) (.value part v p) →
      (Call.value part v p).rank n < (Call.value spec raw place).rank n := by
    intro spec part raw v place p calls
    obtain ⟨mem, same⟩ := calls.part
    have level : n + 1 - p.depth = n + 1 - place.depth := by rw [same]
    exact Prod.Lex.toLex_lt_toLex.mpr
      (.inr ⟨level, Prod.Lex.toLex_lt_toLex.mpr (.inr ⟨rfl, FieldSpec.length_walk_lt mem⟩)⟩)
  cases h with
  | @shortform _ _ place _ _ _ shallow _ =>
    have admitted : place.depth ≤ n := le_of_floorNat bound shallow
    exact Prod.Lex.toLex_lt_toLex.mpr (.inl (by simp only [Place.field]; omega))
  | @field _ _ _ place _ _ _ _ shallow _ _ =>
    have admitted : place.depth ≤ n := le_of_floorNat bound shallow
    exact Prod.Lex.toLex_lt_toLex.mpr (.inl (by simp only [Place.under, Place.field]; omega))
  | member =>
    exact Prod.Lex.toLex_lt_toLex.mpr
      (.inr ⟨rfl, Prod.Lex.toLex_lt_toLex.mpr (.inl Nat.zero_lt_one)⟩)
  | @target _ _ _ place _ _ =>
    have left : n + 2 - (place.depth + 1) = n + 1 - place.depth := by omega
    exact Prod.Lex.toLex_lt_toLex.mpr
      (.inr ⟨left, Prod.Lex.toLex_lt_toLex.mpr (.inl Nat.two_pos)⟩)
  | @group _ _ _ place _ _ =>
    have left : n + 2 - (place.depth + 1) = n + 1 - place.depth := by omega
    exact Prod.Lex.toLex_lt_toLex.mpr
      (.inr ⟨left, Prod.Lex.toLex_lt_toLex.mpr (.inl Nat.one_lt_two)⟩)
  | item shape at_ => exact part (.item shape at_)
  | key shape entry => exact part (.key shape entry)
  | entry shape entry => exact part (.entry shape entry)
  | form => exact part .form

/-- No call leads to calls without end. -/
theorem calls_wellFounded (bound : rules.maxDepth.floorNat = some n) :
    WellFounded fun callee call => Calls rules call callee :=
  Subrelation.wf (fun calls => Calls.rank_lt bound calls)
    (InvImage.wf (Call.rank n) wellFounded_lt)

/-- The calls that a call for a node leads to before there is another call for a node. -/
inductive Enclosed (rules : Rules) (outer : Call) : Call → Prop
  | own {call : Call} (calls : Calls rules outer call) : Enclosed rules outer call
  | through {call callee : Call} (enclosed : Enclosed rules outer call)
      (inner : ∀ raw name place, call ≠ .node raw name place) (calls : Calls rules call callee) :
      Enclosed rules outer callee

/-- A call that belongs to a node of a schema at some depth: a value for a part of one field of the
schema at that depth, or a choice or a node one level below. -/
def Call.BelongsTo (r : Registry) (name : String) (depth : Nat) : Call → Prop
  | .value spec _ place => place.depth = depth ∧
    ∃ schema, r.find? name = some schema ∧ ∃ top ∈ schema.allFields, spec ∈ top.walk
  | .choice _ _ place | .node _ _ place => place.depth = depth + 1

/-- From one node to the next one below, a single field is taken apart, and the depth goes up by
one. -/
theorem Enclosed.belongsTo {raw : Value} {name : String} {place : Place} {call : Call}
    (h : Enclosed rules (.node raw name place) call) :
    call.BelongsTo rules.registry name place.depth := by
  induction h with
  | own calls =>
    cases calls with
    | @shortform _ _ _ schema short found _ declared =>
      exact ⟨rfl, schema, found, short.field, by simp [Schema.allFields, declared],
        short.field.self_mem_walk⟩
    | @field _ _ _ _ schema spec _ found _ declared _ =>
      exact ⟨rfl, schema, found, spec, by simp [Schema.allFields, declared], spec.self_mem_walk⟩
  | @through call callee enclosed inner calls ih =>
    cases call with
    | node raw name place => exact absurd rfl (inner raw name place)
    | choice raw group place =>
      cases calls with
      | member => exact ih
    | value spec raw p =>
      obtain ⟨level, schema, found, top, htop, hspec⟩ := ih
      cases callee with
      | node => exact (Calls.depth_below (.inl calls)).trans (congrArg (· + 1) level)
      | choice => exact (Calls.depth_below (.inr calls)).trans (congrArg (· + 1) level)
      | value below v q =>
        obtain ⟨mem, same⟩ := calls.part
        exact ⟨same.trans level, schema, found, top, htop, FieldSpec.mem_walk_of_part mem hspec⟩

def tooDeep (rules : Rules) (path : List String) : Issue where
  path
  kind := .constraintViolation
  message := s!"the tree is nested deeper than the maximum depth of {rules.maxDepth.text}"

/-- A node that is too deep is refused at once, whatever the check of its values would say. -/
theorem checkNodeWith_tooDeep {name : String} {place : Place}
    (registered : rules.registry.has name = true) (deep : rules.maxDepth.lt place.depth = true)
    (value : ValueRun) (raw : Value) {s : RunState} (running : ¬ s.Stopped rules.errors) :
    checkNodeWith rules value raw name place s =
      (.ok none, { s with issues := s.issues.push (tooDeep rules place.path) }) := by
  obtain ⟨schema, found⟩ := Option.isSome_iff_exists.mp registered
  have going := halted_of_going running
  have reported : Run.report rules place.path .constraintViolation
      s!"the tree is nested deeper than the maximum depth of {rules.maxDepth.text}" none none s =
        (.ok (), { s with issues := s.issues.push (tooDeep rules place.path) }) := by
    unfold Run.report
    rw [bind_of_ok going]
    rfl
  unfold checkNodeWith
  rw [bind_of_ok going]
  simp only [Bool.false_eq_true, if_false, found, deep, if_true]
  rw [bind_of_ok reported]
  rfl

namespace Checks

def AgreeAt (c d : Checks) : Call → Prop
  | .node raw name place => c.node raw name place = d.node raw name place
  | .choice raw group place => c.choice raw group place = d.choice raw group place
  | .value spec raw place => c.value spec raw place = d.value spec raw place

/-- The checks answer every call as it answers itself from what they answer to the calls that it
makes. -/
def Solves (rules : Rules) (c : Checks) : Prop :=
  ∀ call : Call, call.Standard rules.registry.kinds → (c.unfold rules).AgreeAt c call

variable {c d : Checks} {call : Call} {law : Issue → Prop} {pre : RunState → Prop}

theorem AgreeAt.coincideAt (h : c.AgreeAt d call) : c.CoincideAt pre (fun _ => True) d call := by
  cases call <;> exact .of_eq h

theorem CoincideAt.agreeAt (h : c.CoincideAt anywhere law d call) : c.AgreeAt d call := by
  cases call <;> exact Coincides.eq h

theorem AgreeAt.trans {e : Checks} (h : c.AgreeAt d call) (h' : d.AgreeAt e call) :
    c.AgreeAt e call := by
  cases call <;> exact Eq.trans h h'

theorem AgreeAt.symm (h : c.AgreeAt d call) : d.AgreeAt c call := by
  cases call <;> exact Eq.symm h

/-- What answers every call from the calls that it makes is determined. -/
theorem Solves.agreeAt (bound : rules.maxDepth.floorNat = some n)
    (registered : rules.registry.Every (FieldSpec.Standard rules.registry.kinds))
    (hc : c.Solves rules) (hd : d.Solves rules) (call : Call)
    (standard : call.Standard rules.registry.kinds) : c.AgreeAt d call := by
  induction call using (calls_wellFounded bound).induction with
  | _ call ih =>
    -- Both checks answer from calls at which they agree already.
    have unfolded : (c.unfold rules).CoincideAt anywhere (fun _ => True) (d.unfold rules) call :=
      unfold_coincides standard (fun callee calls =>
        (ih callee calls (calls.standard registered standard)).coincideAt) fun _ _ => trivial
    exact ((hc call standard).symm.trans unfolded.agreeAt).trans (hd call standard)

/-- Checks with as many levels as the depth of a call leaves. -/
def bounded (rules : Rules) (n : Nat) : Checks :=
  ofNode rules (fun raw name place => checkNodeAt rules (n + 1 - place.depth + 1) raw name place)
    fun _ _ _ => throw .overflow

/-- With that many levels, no level is ever missing. -/
theorem bounded_solves (bound : rules.maxDepth.floorNat = some n)
    (registered : rules.registry.Every (FieldSpec.Standard rules.registry.kinds)) :
    (bounded rules n).Solves rules := by
  intro call standard
  cases call with
  | choice raw group place => rfl
  | value spec raw place =>
    let c := bounded rules n
    have coincides : Coincides anywhere (fun _ => True) ((c.unfold rules).value spec raw place)
        (checkWith rules
          (contextWith rules c.node c.choice (fun _ _ _ => throw .overflow) spec place)
          (c.parts spec place) spec raw place.path) fun _ => True :=
      value_coincides standard.self
        (fun callee _ => AgreeAt.coincideAt (by cases callee <;> rfl)) fun _ _ => trivial
    exact coincides.eq.trans (ofNode_value _ _ spec raw place).symm
  | node raw name place =>
    -- On an admitted level, values are checked with the levels that the bound leaves below it.
    have values : place.depth ≤ n → ∀ {spec : FieldSpec} (v : Value) {p : Place},
        spec.Every (FieldSpec.Standard rules.registry.kinds) → p.depth = place.depth →
        Coincides anywhere (fun _ => True) ((bounded rules n).value spec v p)
          (checkValue rules (checkNodeAt rules (n + 1 - place.depth)) questionLimit spec v p)
          fun _ => True := by
      intro admitted spec v p every level
      rw [checkValue_eq]
      refine checkSpec_coincides .any (.level (place.depth + 1))
        (fun raw name q below => .of_eq ?_) every (congrArg (· + 1) level)
      show checkNodeAt rules (n + 1 - q.depth + 1) raw name q = _
      rw [show q.depth = place.depth + 1 from below,
        show n + 1 - (place.depth + 1) + 1 = n + 1 - place.depth by omega]
    have nodes : Coincides anywhere (fun _ => True)
        (checkNodeWith rules (bounded rules n).value raw name place)
        (checkNodeAt rules (n + 1 - place.depth + 1) raw name place) fun _ => True := by
      refine checkNodeWith_coincides (fun spec v p hands => ?_) fun _ _ => trivial
      cases hands with
      | shortform found shallow declared =>
        exact values (le_of_floorNat bound shallow) _ (registered.shortform found declared) rfl
      | field found shallow declared =>
        exact values (le_of_floorNat bound shallow) _ (registered.field found declared) rfl
      | inner inner => exact absurd rfl (inner raw name place)
    exact nodes.eq

end Checks

end Validation

open Validation

/-- Validations with a finite bound on the depth end. What a call comes to depends on nothing but
the answers of the calls that it makes while the run goes on, and no call leads to calls without
end; a validation is the one solution of these equations. Between two nodes one field is taken apart
and the depth goes up by one; a node beyond the bound makes no call, and if its schema is
registered, as every schema is that a frozen registry refers to, it is refused at its own path. -/
theorem Registry.validation_ends {r : Registry} (made : r.Made) (frozen : r.frozen = true)
    (builtin : r.Every (FieldSpec.Builtin r.kinds)) {o : ValidateOptions}
    (finite : o.maxDepth.isFinite = true) :
    (∀ (c d : Checks) (call : Validation.Call), call.Standard r.kinds →
      (∀ callee, Calls (o.rules r) call callee →
        c.CoincideAt (going (o.rules r)) (fun _ => True) d callee) →
      (c.unfold (o.rules r)).AgreeAt (d.unfold (o.rules r)) call) ∧
    (WellFounded fun callee call => Calls (o.rules r) call callee) ∧
    (∃ c : Checks, c.Solves (o.rules r) ∧
      (∀ d : Checks, d.Solves (o.rules r) → ∀ call : Validation.Call, call.Standard r.kinds →
        c.AgreeAt d call) ∧
      ∀ raw name, o.run r raw name = c.node raw name ⟨[], o.stack, o.kwargs, 1⟩) ∧
    (∀ raw name place call, Enclosed (o.rules r) (.node raw name place) call →
      call.BelongsTo r name place.depth) ∧
    (∀ raw name place callee, Calls (o.rules r) (.node raw name place) callee →
      o.maxDepth.lt (place.depth : Number) = false) ∧
    (∀ (c : Checks) raw name place (s : RunState), r.has name = true →
      o.maxDepth.lt (place.depth : Number) = true → ¬ s.Stopped o.errors →
      (c.unfold (o.rules r)).node raw name place s =
        (.ok none, { s with issues := s.issues.push (tooDeep (o.rules r) place.path) })) ∧
    ∀ raw name v schema place, Reaches (o.rules r) (rootCall o raw name) (.node v schema place) →
      Validation.Call.node v schema place = rootCall o raw name ∨ r.has schema = true := by
  obtain ⟨n, bound⟩ : ∃ n, (o.rules r).maxDepth.floorNat = some n := by
    show ∃ n, o.maxDepth.floorNat = some n
    cases number : o.maxDepth with
    | finite q => exact ⟨_, rfl⟩
    | _ => simp [number, Number.isFinite] at finite
  have standard : r.Every (FieldSpec.Standard r.kinds) := builtin.mono fun _ h => h.standard
  have coherent : (o.rules r).registry.Coherent := made.coherent
  have whole : (o.rules r).registry.Every (o.rules r).registry.Whole :=
    (made.resolved frozen).mono fun _ resolves => resolves.whole made
  have solves : (Checks.bounded (o.rules r) n).Solves (o.rules r) :=
    Checks.bounded_solves bound standard
  refine ⟨fun c d call known callees => ?_, calls_wellFounded bound, ⟨_, solves, ?_, ?_⟩,
    fun raw name place call enclosed => enclosed.belongsTo, ?_, ?_, ?_⟩
  · have unfolded : (c.unfold (o.rules r)).CoincideAt anywhere (fun _ => True)
        (d.unfold (o.rules r)) call :=
      Checks.unfold_coincides known callees fun _ _ => trivial
    exact unfolded.agreeAt
  · exact fun d hd call known => solves.agreeAt bound standard hd call known
  · intro raw name
    have levels : levels o.maxDepth = n + 1 - 1 + 1 := by
      unfold Validation.levels
      rw [show o.maxDepth.floorNat = some n from bound]
      rfl
    show checkNodeAt (o.rules r) (Validation.levels o.maxDepth) raw name _ = _
    rw [levels]
    rfl
  · intro raw name place callee calls
    cases calls with
    | shortform _ shallow _ => exact shallow
    | field _ shallow _ _ => exact shallow
  · intro c raw name place s registered deep running
    exact checkNodeWith_tooDeep registered deep c.value raw running
  · intro raw name v schema place reached
    exact reached.resolved coherent whole

namespace Dolls

def doll : Schema where
  name := "doll"
  fields := [.leaf {
    name := "inner", kind := "node", required := false
    default? := some (.constant (.record [] true))
    constraints := { target := some "doll" } }]

/-- A doll in which another doll is put unless there is one already. -/
def registry : Registry := { kinds := .builtin, schemas := [doll], frozen := true }

theorem registry_made : registry.Made := by
  have dolls := Registry.Made.schema (.empty .builtin) (show Registry.register? _ doll.name
    (.specs doll.fields) doll.info = .ok (_, doll) from rfl)
  exact .freeze dolls

theorem registry_builtin : registry.Every (FieldSpec.Builtin registry.kinds) := by
  simp only [Registry.Every, FieldSpec.Every, registry, doll, Schema.allFields, FieldSpec.walk,
    List.forall_mem_cons, Option.map_none, Option.toList_none, List.append_nil, List.not_mem_nil,
    false_imp_iff, implies_true, and_true]
  exact ⟨.node, rfl, rfl⟩

/-- Dolls within dolls come to an end at the bound. -/
theorem doll_ends :
    (registry.validate [] (.record [] true) "doll" { maxDepth := 2 }).result =
      .ok (.invalid [tooDeep (ValidateOptions.rules { maxDepth := 2 } registry)
        ["doll.inner", "doll.inner"]]) ∧
    WellFounded fun callee call =>
      Calls (ValidateOptions.rules { maxDepth := 2 } registry) call callee :=
  ⟨rfl, (Registry.validation_ends (o := { maxDepth := 2 }) registry_made rfl registry_builtin
    rfl).2.1⟩

/-- A root that is too deep and whose schema is not registered is not found. -/
theorem puppet_not_found : registry.Made ∧ registry.frozen = true ∧
    registry.Every (FieldSpec.Builtin registry.kinds) ∧ Number.isFinite 0 = true ∧
    Number.lt 0 (1 : Nat) = true ∧
    (registry.validate [] (.record [] true) "puppet" { maxDepth := 0 }).result =
      .ok (.invalid [⟨[], .schemaNotFound, "the schema 'puppet' is not registered", none, none⟩]) :=
  ⟨registry_made, rfl, registry_builtin, rfl, rfl, rfl⟩

end Dolls

end ShapedTree
