import ShapedTree.Proofs.Validation.FailFast
import ShapedTree.Proofs.Validation.NodeLogic
import ShapedTree.Proofs.Value.Legible

namespace ShapedTree

theorem Snapshot.legible_of_get? {s : Snapshot} (h : s.All Value.Legible) {name : String}
    {v : Value} (held : s.get? name = some v) : v.Legible := by
  unfold Snapshot.get? at held
  rcases Option.or_eq_some_iff.mp held with own | ⟨-, inherited⟩
  · exact h.entries _ (Entries.mem_of_lookup own)
  · unfold Heritage.get? at inherited
    split at inherited
    next => cases inherited
    next =>
      split at inherited
      next => cases inherited; exact .record nofun
      next => cases inherited
    next w object =>
      have legible : w.Legible := h.heritage w object
      rcases Option.or_eq_some_iff.mp inherited with part | ⟨-, itself⟩
      · exact legible.part part
      · split at itself
        next => cases itself; exact legible
        next => cases itself

/-- A default comes to a value that reports can show. -/
def FieldDefault.Returns : FieldDefault → Prop
  | .constant v => v.Presentable
  | .factory made => ∃ v, made = .ok v ∧ v.Presentable
  | .counting _ make => ∀ count, ∃ v, make count = .ok v ∧ v.Presentable
  | .computed generate => ∀ args, args.All Value.Legible →
    ∃ v, generate args = .ok v ∧ v.Presentable

/-- The callbacks of a specification return. -/
structure FieldSpec.Returns (s : FieldSpec) : Prop where
  check : ∀ check, s.info.constraints.validator = some check → ∀ v, ∃ verdict, check v = .ok verdict
  default : ∀ d, s.info.default? = some d → d.Returns

/-- The callbacks of a schema return. -/
structure Schema.Returns (s : Schema) : Prop where
  expand : ∀ short, s.info.shortform = some short →
    ∀ v, v.Legible → ∃ es, short.expand v = .ok es ∧ Value.PresentableEntries es
  check : ∀ check, s.info.validator = some check → ∀ args, ∃ verdict, check args = .ok verdict

namespace Run

open ShapedTree.Computation

/-- From every state, `x` comes to a result that satisfies `post`. Where nothing bounds the depth, it
may use up every level instead. -/
def Finishes (rules : Rules) {α : Type} (x : Run α) (post : α → Prop) : Prop :=
  ∀ s, (∃ a t, x s = (.ok a, t) ∧ post a) ∨
    (rules.maxDepth.floorNat = none ∧ ∃ t, x s = (.error .overflow, t))

namespace Finishes

variable {rules : Rules} {α β : Type} {x : Run α} {P : α → Prop}

theorem of_ok (h : ∀ s, ∃ a t, x s = (.ok a, t) ∧ P a) : Finishes rules x P := fun s => .inl (h s)

theorem bind {f : α → Run β} {Q : β → Prop} (hx : Finishes rules x P)
    (hf : ∀ a, P a → Finishes rules (f a) Q) : Finishes rules (x >>= f) Q := by
  intro s
  obtain ⟨a, t, run, ha⟩ | ⟨unbounded, t, run⟩ := hx s
  · have whole : (x >>= f) s = f a t := bind_of_ok run
    rw [whole]
    exact hf a ha t
  · refine .inr ⟨unbounded, t, ?_⟩
    rw [bind_apply, run]

theorem mono {Q : α → Prop} (hx : Finishes rules x P) (le : ∀ a, P a → Q a) :
    Finishes rules x Q := by
  intro s
  obtain ⟨a, t, run, ha⟩ | overflown := hx s
  · exact .inl ⟨a, t, run, le a ha⟩
  · exact .inr overflown

theorem watched (hx : Finishes rules x P) : Finishes rules (watched x) fun r => P r.1 := by
  intro s
  obtain ⟨a, t, run, ha⟩ | ⟨unbounded, t, run⟩ := hx s
  · exact .inl ⟨_, t, watched_of_ok run, ha⟩
  · refine .inr ⟨unbounded, t, ?_⟩
    unfold Run.watched
    rw [bind_of_ok (show (get : Run RunState) s = (.ok s, s) from rfl), bind_apply, run]

theorem trial (hx : Finishes rules x P) : Finishes rules (trial x) fun r => P r.1 := by
  intro s
  unfold Run.trial
  obtain ⟨a, t, run, ha⟩ | ⟨unbounded, t, run⟩ := hx { memory := s.memory }
  · rw [run]
    exact .inl ⟨_, _, rfl, ha⟩
  · rw [run]
    exact .inr ⟨unbounded, _, rfl⟩

end Finishes

/-- The logic of computations that come to a result from every state. -/
def Logic.returning (rules : Rules) : Logic rules where
  total := True
  remembers := True
  Holds x P := Finishes rules x P
  mono h le := h.mono le
  pure h := .of_ok fun s => ⟨_, s, rfl, h⟩
  bind hx hf := hx.bind hf
  lift returns post := .of_ok fun s => by
    obtain ⟨a, rfl⟩ := returns trivial
    exact ⟨a, s, rfl, post a rfl⟩
  halted := .of_ok fun s => ⟨_, s, rfl, trivial⟩
  record issue := .of_ok fun s => ⟨(), _, rfl, trivial⟩
  log level text := .of_ok fun s => ⟨(), _, rfl, trivial⟩
  adopt entries := .of_ok fun s => ⟨(), _, rfl, trivial⟩
  useMemory f _ := .of_ok fun s =>
    ⟨(f s.memory).1, { s with memory := (f s.memory).2 }, rfl, trivial⟩
  watched h := h.watched
  trial h := h.trial

theorem Logic.returning_yields {rules : Rules} {α : Type} {e : Except Fault α} {P : α → Prop}
    (h : ∃ a, e = .ok a ∧ P a) : (Logic.returning rules).Yields e P := by
  obtain ⟨a, rfl, ha⟩ := h
  refine ⟨fun _ => ⟨a, rfl⟩, fun b same => ?_⟩
  cases same
  exact ha

end Run

/-- Arguments that were given stay given under overrides. -/
theorem Kwargs.has_override {k : Kwargs} {name : String} (overrides : Option (Entries Value))
    (h : k.has name = true) : (k.override overrides).has name = true := by
  cases overrides with
  | none => exact h
  | some es =>
    have kept : ∀ base : Entries Value, Entries.has base name = true →
        Entries.has (Record.merge base es) name = true := by
      induction es with
      | nil => exact fun base held => held
      | cons e rest ih =>
        intro base held
        have more : Entries.has (Record.insert base e.1 e.2) name = true := by
          rw [Entries.has_iff, Record.mem_keys_insert]
          exact .inr (Entries.has_iff.mp held)
        exact ih _ more
    unfold Kwargs.has at h
    simp only [Bool.or_eq_true, Bool.and_eq_true] at h
    unfold Kwargs.override Kwargs.has
    simp only [Bool.or_eq_true, Bool.true_and]
    exact h.imp (kept k.entries) And.right

theorem Kwargs.missing_override {k : Kwargs} {names : List String}
    (overrides : Option (Entries Value)) (h : k.missing names = []) :
    (k.override overrides).missing names = [] := by
  unfold Kwargs.missing at h ⊢
  rw [List.filter_eq_nil_iff] at h ⊢
  intro name hname
  have given : k.has name = true := by simpa using h name hname
  simp [Kwargs.has_override overrides given]

namespace Validation

open Run

variable {rules : Rules}

theorem admits_of_returns {spec : FieldSpec} (builtin : spec.Builtin rules.registry.kinds)
    (returns : spec.Returns) :
    spec.Admits (Logic.returning rules) Value.Presentable Value.Legible where
  builtin := builtin
  fixed forgets := absurd trivial forgets
  check check declared v := by
    obtain ⟨verdict, h⟩ := returns.check check declared v
    exact Logic.returning_yields ⟨verdict, h, trivial⟩
  default d declared := by
    have h := returns.default d declared
    cases d with
    | constant v => exact h
    | factory made => exact Logic.returning_yields h
    | counting cell make => exact ⟨trivial, fun count => Logic.returning_yields (h count)⟩
    | computed generate => exact fun args shown => Logic.returning_yields (h args shown)

theorem schema_admits_of_returns {schema : Schema} (returns : schema.Returns) :
    schema.Admits (Logic.returning rules) Value.PresentableEntries Value.Legible where
  expand short declared v legible := Logic.returning_yields (returns.expand short declared v legible)
  check check declared args := by
    obtain ⟨verdict, h⟩ := returns.check check declared args
    exact Logic.returning_yields ⟨verdict, h, trivial⟩

/-- Input that can be shown is validated, with arguments that every schema is content with. -/
def returningPremises (builtin : rules.registry.Every (FieldSpec.Builtin rules.registry.kinds))
    (callbacks : rules.registry.Every FieldSpec.Returns)
    (schemas : ∀ s ∈ rules.registry.schemas, s.Returns) : (Logic.returning rules).Premises where
  value := Value.Presentable
  record := Value.PresentableEntries
  stored := Value.Legible
  args k := ∀ s ∈ rules.registry.schemas, k.missing (s.info.requires.getD []) = []
  text s := .atom rfl
  items h shape := h.items shape
  entries h shape := h.entries shape
  parts h := h.parts
  type h named := by
    obtain ⟨text, shown⟩ := h.typed _ named
    exact Logic.returning_yields ⟨text, shown, trivial⟩
  shows h _ v same := by
    cases same
    exact h.preview
  copy h := Value.legible_of_jsonCopy? h
  list := .list
  mapping := .record
  node := .node
  override overrides h s hs := Kwargs.missing_override overrides (h s hs)
  spec s hs top ht part hp :=
    admits_of_returns (builtin s hs top ht part hp) (callbacks s hs top ht part hp)
  schema s hs := schema_admits_of_returns (schemas s hs)
  required _ _ h := h

/-- A level that a bound admits is at most the number of levels that the bound stands for. -/
theorem le_of_floorNat {bound : Number} {n depth : Nat} (h : bound.floorNat = some n)
    (shallow : bound.lt (depth : Number) = false) : depth ≤ n := by
  cases bound with
  | nan => cases h
  | infinity negative =>
    cases negative with
    | true => cases shallow
    | false => cases h
  | finite q =>
    cases h
    have within : ¬ q < (depth : Rat) := by simpa [Number.lt] using shallow
    have le : (depth : Rat) ≤ q := Rat.not_lt.mp within
    have floor : (depth : Int) ≤ q.floor := Rat.le_floor_iff.mpr (by exact_mod_cast le)
    omega

/-- Where the bound stands for that many levels, or nothing bounds the depth, checks of nodes come to
results as long as a level is left for every depth and one more. -/
theorem checkNodeAt_finishes (C : (Logic.returning rules).Premises) (levels depth : Nat)
    (enough : ∀ n, rules.maxDepth.floorNat = some n → levels + depth = n + 2 ∧ 0 < levels) :
    NodesHold C (checkNodeAt rules levels) depth := by
  induction levels generalizing depth with
  | zero =>
    intro raw name place _ _ s
    refine .inr ⟨?_, s, rfl⟩
    cases bound : rules.maxDepth.floorNat with
    | none => rfl
    | some n => exact absurd (enough n bound).2 (by omega)
  | succ levels ih =>
    refine checkNodeWith_holds fun shallow => ?_
    rw [checkValue_eq]
    refine checkSpec_holds (ih (depth + 1) fun n bound => ?_)
    have admitted : depth ≤ n := le_of_floorNat bound shallow
    have := (enough n bound).1
    omega

end Validation

namespace Library

theorem registry_returns : registry.Every FieldSpec.Returns := by
  have label : FieldDefault.Returns (.computed fun a => .ok (.list
      (a.stack.filterMap (·.get? "title") ++ (a.siblings.get? "title").toList))) := by
    intro args shown
    refine ⟨_, rfl, Value.Legible.presentable (.list fun v hv => ?_)⟩
    rcases List.mem_append.mp hv with above | beside
    · obtain ⟨view, hview, title⟩ := List.mem_filterMap.mp above
      exact shown.stack view hview _ (Entries.mem_of_lookup title)
    · exact Snapshot.legible_of_get? shown.siblings (Option.mem_toList.mp beside)
  have rank : FieldDefault.Returns (.constant (.number 1)) := .atom rfl
  have plain : ∀ {spec : FieldSpec}, spec.info.constraints.validator = none →
      spec.info.default? = none → spec.Returns := by
    intro spec unchecked open_
    exact ⟨by simp [unchecked], by simp [open_]⟩
  have given : ∀ {spec : FieldSpec} {d : FieldDefault}, d.Returns →
      spec.info.constraints.validator = none → spec.info.default? = some d → spec.Returns := by
    intro spec d returns unchecked default
    exact ⟨by simp [unchecked], by simpa [default] using returns⟩
  simp only [Registry.Every, FieldSpec.Every, registry, chapter, note, book, Schema.allFields,
    textField, FieldSpec.walk, List.forall_mem_cons, Option.map_none, Option.toList_none,
    List.append_nil, List.not_mem_nil, false_imp_iff, implies_true, and_true]
  exact ⟨⟨plain rfl rfl, given label rfl rfl⟩, plain rfl rfl, plain rfl rfl,
    ⟨plain rfl rfl, plain rfl rfl⟩, given rank rfl rfl⟩

theorem schemas_return : ∀ s ∈ registry.schemas, s.Returns := by
  have plain : ∀ {s : Schema}, s.info.shortform = none → s.info.validator = none → s.Returns := by
    intro s closed unchecked
    exact ⟨by simp [closed], by simp [unchecked]⟩
  simp only [registry, List.forall_mem_cons, List.not_mem_nil, false_imp_iff, implies_true,
    and_true]
  exact ⟨plain rfl rfl, plain rfl rfl, plain rfl rfl⟩

/-- A book of nothing that a book is made of. -/
def strange : Value := .record [("title", .bigint 3),
  ("parts", .list [.knot, .record [("type", .exotic .map)] false, .number .nan]),
  ("rank", .number .nan)] true

theorem strange_presentable : strange.Presentable := by
  have part : (Value.record [("type", .exotic .map)] false).Presentable :=
    Value.Legible.presentable (.record (by simp [Value.Legible.exotic]))
  refine .record ⟨_, rfl⟩ ?_ nofun
  simp only [List.forall_mem_cons, List.not_mem_nil, false_imp_iff, implies_true, and_true]
  refine ⟨.atom rfl, .list ⟨_, rfl⟩ ?_, .atom rfl⟩
  simp only [List.forall_mem_cons, List.not_mem_nil, false_imp_iff, implies_true, and_true]
  exact ⟨.atom rfl, part, .atom rfl⟩

end Library

end ShapedTree
