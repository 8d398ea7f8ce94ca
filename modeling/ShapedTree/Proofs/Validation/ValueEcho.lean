import ShapedTree.Proofs.Validation.EntryOrder
import ShapedTree.Proofs.Validation.Likeness
import ShapedTree.Proofs.Validation.ValueCompleteness
import ShapedTree.Proofs.Validation.ValueSoundness

namespace ShapedTree

open Run ShapedTree.Computation

variable {rules rules' : Rules} {like : Likeness}

/-- One check of nodes is echoed by another one on values that are alike. -/
def NodesEchoed (like : Likeness) (m n : NodeRun) : Prop :=
  ∀ raw raw' name place, like (.node name) raw raw' →
    Echoed Eq (m raw name place) (n raw' name place)

/-- One resolution of choices is echoed by another one on values that are alike. -/
def ChoicesEchoed (like : Likeness) (rules rules' : Rules) (m n : NodeRun) : Prop :=
  ∀ raw raw' group place, like (.choice group) raw raw' →
    Echoed Eq (Choice.check rules m raw group place) (Choice.check rules' n raw' group place)

namespace Kind

theorem checkItems_echoed {R : Value → Value → Prop} {item item' : PartCheck Run}
    (h : PartEchoed R item item') {vs ws : List Value} (alike : List.Forall₂ R vs ws)
    (index : Nat) :
    Echoed Eq (checkItems (halted rules) item index vs)
      (checkItems (halted rules') item' index ws) := by
  induction alike generalizing index with
  | nil => exact .pure rfl
  | cons first _ ih =>
    refine (h _ _ _ first).bind fun answer => .guard (.pure trivial) ?_
    refine (ih (index + 1)).bind fun others => ?_
    cases answer <;> cases others <;> exact .pure rfl

end Kind

namespace Choice

variable {m n : NodeRun} {raw raw' : Value}

theorem attempt_eq_ok {x : Run (Option Node)} {s s' : RunState} {found : Option Match}
    (h : attempt x s = (.ok found, s')) :
    ∃ answer u, x { memory := s.memory } = (.ok answer, u) ∧
      s' = { s with memory := u.memory } ∧
      found = if u.issues.isEmpty then answer.map fun n => ⟨n, u.log⟩ else none := by
  obtain ⟨⟨answer, issues, log⟩, t, tried, h⟩ := bind_eq_ok h
  cases h
  unfold Run.trial at tried
  split at tried
  next a u run =>
    cases tried
    exact ⟨answer, u, run, rfl, rfl⟩
  next => cases tried

/-- Two members that are tried come to the same node, if the checks echo each other. -/
theorem attempt_echoed {x y : Run (Option Node)} (h : Echoed Eq x y) (back : Echoed Eq y x) :
    Echoed (fun found found' => found.map Match.node = found'.map Match.node)
      (attempt x) (attempt y) where
  grows := h.grows.trial.bind fun _ => .pure fun _ => trivial
  agrees := by
    rintro found ⟨s, s', run, clean⟩ t found' t' fresh run'
    obtain ⟨a, u, hx, rfl, rfl⟩ := attempt_eq_ok run
    obtain ⟨b, v, hy, rfl, rfl⟩ := attempt_eq_ok run'
    have new : ∀ memory, RunState.Clean { memory } := fun _ => rfl
    refine ⟨fresh, ?_⟩
    -- A trial keeps its issues to itself: a clean run can come of a trial that was not clean, so
    -- the checks have to echo each other both ways.
    by_cases flawless : u.Clean
    · obtain ⟨flawless', same⟩ := h.agrees a ⟨_, u, hx, flawless⟩ _ b v (new _) hy
      subst same
      have first : u.issues = #[] := flawless
      have second : v.issues = #[] := flawless'
      cases a <;> simp [first, second]
    · have flawed' : ¬ v.Clean := fun flawless' =>
        flawless (back.agrees b ⟨_, v, hy, flawless'⟩ _ a u (new _) hx).1
      have first : u.issues.isEmpty = false := by simpa [RunState.Clean] using flawless
      have second : v.issues.isEmpty = false := by simpa [RunState.Clean] using flawed'
      simp [first, second]

/-- Every member is tried, and those that the value fits are kept. -/
theorem matching_tries {law : String → Option Match → Prop} {node : NodeRun} {place : Place}
    {names : List String} (h : ∀ name ∈ names, Ensures (attempt (node raw name place)) (law name)) :
    Ensures (matching node raw place names) fun found =>
      ∃ os, List.Forall₂ law names os ∧ found = os.reduceOption := by
  induction names with
  | nil => exact .pure ⟨[], .nil, rfl⟩
  | cons name rest ih =>
    obtain ⟨one, more⟩ := List.forall_mem_cons.mp h
    rw [matching_cons]
    refine one.bind fun first => (ih more).bind fun others => .pure ?_
    rintro ⟨os, all, rfl⟩ tried
    refine ⟨first :: os, .cons tried all, ?_⟩
    cases first <;> simp

theorem matching_spotless {node : NodeRun} {place : Place} {names : List String}
    {os : List (Option Node)} (h : List.Forall₂ (fun name o =>
      Spotless (attempt (node raw name place)) fun found => o = found.map Match.node) names os) :
    Spotless (matching node raw place names) fun found =>
      os.reduceOption = found.map Match.node := by
  induction h with
  | nil => exact .pure rfl
  | @cons name o names os first _ ih =>
    rw [matching_cons]
    refine first.bind fun found same => ih.bind fun others same' => .pure ?_
    subst same
    cases found <;> simp [same']

/-- The members that a value fits do not depend on the order in which they are tried. -/
theorem matching_echoed {names names' : List String} {place : Place}
    (tries : ∀ name ∈ names, Echoed
      (fun found found' => found.map Match.node = found'.map Match.node)
      (attempt (m raw name place)) (attempt (n raw' name place)))
    (perm : names.Perm names') :
    Echoed (fun found found' => (found.map Match.node).Perm (found'.map Match.node))
      (matching m raw place names) (matching n raw' place names') := by
  refine .of_spotless (matching_tries (fun name hm => (tries name hm).grows.accepted)) ?_
  rintro _ ⟨os, all, rfl⟩
  have nodes : List.Forall₂ (fun name o =>
      Spotless (attempt (n raw' name place)) fun found => o = found.map Match.node) names
      (os.map (Option.map Match.node)) :=
    List.forall₂_map_right_iff.mpr <|
      ((List.forall₂_and_left _ _).mpr ⟨fun _ hm => hm, all⟩).imp fun name o found =>
        (tries name found.1).agrees o found.2
  -- What the tries come to is reordered as the names are.
  obtain ⟨os', all', reordered⟩ := List.perm_comp_forall₂ perm.symm nodes
  refine (matching_spotless all').mono fun found same => ?_
  rw [← same, ← List.reduceOption_map]
  exact (reordered.filterMap id).symm

theorem namedType?_eq (raw : Value) :
    namedType? raw = raw.entries?.bind (Validation.readKey · "type") := by
  unfold namedType? Validation.readKey
  cases raw.entries? <;> rfl

theorem byType_echoed (h : NodesEchoed like m n)
    {members members' : List (String × String)} {group : String} {place : Place}
    {types types' : List String} {type type' : Value}
    (same : member? members type = member? members' type')
    (alike : ∀ name, member? members type = some name → like (.node name) raw raw') :
    Echoed Eq (byType rules m raw group place members types type)
      (byType rules' n raw' group place members' types' type') := by
  unfold byType
  rw [← same]
  split
  next target found => exact h raw raw' target place (alike target found)
  next =>
    refine .of_flawed ((Ensures.lift _).bind fun shown => ?_)
    exact Ensures.report.bind fun _ => .pure fun no _ => no

/-- Where one member alone matches on the left, one member alone matches on the right, and makes the
same node. -/
def SettledAlike (found found' : List Match) : Prop :=
  ∀ one, found = [one] → ∃ other, found' = [other] ∧ other.node = one.node

theorem settledAlike_of_perm {found found' : List Match}
    (perm : (found.map Match.node).Perm (found'.map Match.node)) : SettledAlike found found' := by
  rintro one rfl
  exact List.map_eq_singleton_iff.mp (List.perm_singleton.mp perm.symm)

theorem byFit_echoed {members members' : List (String × String)} {group : String} {place : Place}
    {types types' : List String}
    (matched : Echoed SettledAlike (matching m raw place (members.map Prod.snd))
      (matching n raw' place (members'.map Prod.snd))) :
    Echoed Eq (byFit rules m raw group place members types)
      (byFit rules' n raw' group place members' types') := by
  unfold byFit
  refine matched.bind_rel (fun _ one same => ⟨one, same, rfl⟩) fun found found' settled => ?_
  split
  next one =>
    obtain ⟨other, rfl, same⟩ := settled one rfl
    refine .of_spotless (P := (· = some one.node)) ?_ fun answer same' => ?_
    · exact (Ensures.adopt _).bind fun _ => .pure fun _ => rfl
    · rw [same', ← same]
      exact (Spotless.adopt _).bind fun _ _ => .pure rfl
  next => exact .of_flawed (Ensures.report.bind fun _ => .pure fun no => no)

/-- A choice is resolved alike, if the members that the values fit settle it alike. -/
theorem check_echoed {group : String} {place : Place}
    (perm : (rules.registry.choiceMembers group).Perm (rules'.registry.choiceMembers group))
    (typed : ∀ type, (rules.registry.choiceMembers group).lookup type =
      (rules'.registry.choiceMembers group).lookup type)
    (alike : Alike like (rules.registry.choiceMembers group) raw raw') (h : NodesEchoed like m n)
    (matched : namedType? raw = none → isEmptyRecord raw = false →
      Echoed SettledAlike
        (matching m raw place ((rules.registry.choiceMembers group).map Prod.snd))
        (matching n raw' place ((rules'.registry.choiceMembers group).map Prod.snd))) :
    Echoed Eq (check rules m raw group place) (check rules' n raw' group place) := by
  obtain ⟨named, each, empty⟩ := alike
  unfold check
  refine .guard (.pure trivial) ?_
  unfold tried at each
  generalize rules.registry.choiceMembers group = members at named each empty perm typed matched ⊢
  generalize rules'.registry.choiceMembers group = members' at perm typed matched ⊢
  generalize namedType? raw = type, namedType? raw' = type' at named each matched ⊢
  cases named with
  | some same =>
    exact byType_echoed h (member?_eq typed ▸ same) fun name found => each name (by simp [found])
  | none =>
    simp only at each ⊢
    -- One member on the one side is one member on the other side.
    split
    next type only =>
      obtain rfl := List.perm_singleton.mp perm.symm
      exact h raw raw' only place (each only (by simp))
    next several =>
      split
      next => exact .of_flawed (Ensures.report.bind fun _ => .pure fun no => no)
      next filled =>
        have many : members.length ≠ 1 := fun one => by
          obtain ⟨⟨type, only⟩, rfl⟩ := List.length_eq_one_iff.mp one
          exact several type only rfl
        have filled' : ¬ isEmptyRecord raw' = true := empty many ▸ filled
        simp only [filled']
        split
        next type only => exact (several type only (List.perm_singleton.mp perm)).elim
        next => exact byFit_echoed (matched rfl (eq_false_of_ne_true filled))

/-- Choices are resolved alike under rules that agree, if the checks of nodes echo each other. -/
theorem check_echoed_of_agree (agree : rules.Agree rules' like) (h : NodesEchoed like m n)
    (back : NodesEchoed like n m) : ChoicesEchoed like rules rules' m n := by
  intro raw raw' group place alike
  have each := agree.choice alike
  refine check_echoed (agree.members group) (agree.typed group) each h fun untyped _ => ?_
  have tries : ∀ name ∈ (rules.registry.choiceMembers group).map Prod.snd,
      like (.node name) raw raw' := fun name hm =>
    each.tried name ((tried_of_untyped untyped).symm ▸ hm)
  exact (matching_echoed (fun name hm => attempt_echoed (h raw raw' name place (tries name hm))
    (back raw' raw name place (agree.symm (tries name hm))))
    ((agree.members group).map Prod.snd)).mono fun _ _ => settledAlike_of_perm

end Choice

namespace Validation

variable {m n : NodeRun} {other other' : ValueRun} {raw raw' : Value}

/-- One check of each part of a specification is echoed by another one. -/
inductive PartsEchoed (like : Likeness) : FieldSpec → PartChecks Run → PartChecks Run → Prop
  | none {spec : FieldSpec} : PartsEchoed like spec .none .none
  | list {info : FieldInfo} {item : FieldSpec} {check check' : PartCheck Run}
      (h : PartEchoed (like (.value item)) check check') :
      PartsEchoed like (.list info item) (.list check) (.list check')
  | mapping {info : FieldInfo} {key value : FieldSpec} {byInteger : Bool}
      {checkKey checkKey' checkValue checkValue' : PartCheck Run}
      (hkey : PartEchoed (like (.value key)) checkKey checkKey')
      (hvalue : PartEchoed (like (.value value)) checkValue checkValue')
      (integers : byInteger = true →
        ∀ s label, Ensures (checkKey (.text s) label) Kind.KeyOfInteger) :
      PartsEchoed like (.mapping info key value) (.mapping byInteger checkKey checkValue)
        (.mapping byInteger checkKey' checkValue')
  | either {info : FieldInfo} {primitive complex : FieldSpec}
      {checkPrimitive checkPrimitive' checkComplex checkComplex' : PartCheck Run}
      (hprimitive : PartEchoed (like (.value primitive)) checkPrimitive checkPrimitive')
      (hcomplex : PartEchoed (like (.value complex)) checkComplex checkComplex') :
      PartsEchoed like (.either info primitive complex) (.either checkPrimitive checkComplex)
        (.either checkPrimitive' checkComplex')

section nested

variable {parts parts' : PartChecks Run} {spec : FieldSpec} (likens : rules.Likens rules' like)
  (hparts : PartsEchoed like spec parts parts') (alike : like (.value spec) raw raw')
include likens hparts alike

theorem list_mirrored (kind : spec.kind = BuiltinKind.list.tag) (place : Place) :
    Kind.Mirrored (BuiltinKind.list.check (context rules m other spec place) parts spec.info raw)
      (BuiltinKind.list.check (context rules' n other' spec place) parts' spec.info raw') := by
  simp only [BuiltinKind.check, Kind.checkList]
  cases hparts with
  | list hitem =>
    have shapes := likens.items kind alike
    generalize raw.items? = left, raw'.items? = right at shapes ⊢
    cases shapes with
    | none => exact .found _
    | some pairs =>
      simp only [← pairs.length_eq]
      split
      next => exact .found _
      next =>
        refine .of_echoed ((Kind.checkItems_echoed hitem pairs 0).bind fun answer => ?_)
        cases answer <;> exact .pure rfl
  | _ =>
    split
    next => split <;> exact .found _
    next => exact .found _

theorem mapping_mirrored (kind : spec.kind = BuiltinKind.mapping.tag) (place : Place) :
    Kind.Mirrored (BuiltinKind.mapping.check (context rules m other spec place) parts spec.info raw)
      (BuiltinKind.mapping.check (context rules' n other' spec place) parts' spec.info raw') := by
  simp only [BuiltinKind.check, Kind.checkMapping]
  cases hparts with
  | mapping hkey hvalue integers =>
    have shapes := likens.entries kind alike
    have keys : ∀ es, raw.entries? = some es → ∀ e ∈ es, _ := fun _ => likens.keys kind alike
    generalize raw.entries? = left, raw'.entries? = right at shapes keys ⊢
    cases shapes with
    | none => exact .found _
    | some entries =>
      exact Kind.checkEntries_mirrored (fun _ _ alike => likens.left alike) hkey hvalue integers
        (keys _ rfl) entries
  | _ => split <;> exact .found _

theorem either_mirrored (kind : spec.kind = BuiltinKind.either.tag) (place : Place) :
    Kind.Mirrored (BuiltinKind.either.check (context rules m other spec place) parts spec.info raw)
      (BuiltinKind.either.check (context rules' n other' spec place) parts' spec.info raw') := by
  simp only [BuiltinKind.check, Kind.checkEither]
  cases hparts with
  | @either _ _ _ primitive primitive' complex complex' hprimitive hcomplex =>
    have form : Echoed Eq ((if raw.isPrimitive then primitive else complex) raw "")
        ((if raw'.isPrimitive then primitive' else complex') raw' "") := by
      obtain ⟨same, alike⟩ := likens.form kind alike
      rw [← same]
      revert alike
      cases raw.isPrimitive with
      | true => exact hprimitive raw raw' ""
      | false => exact hcomplex raw raw' ""
    refine .of_echoed (form.bind fun answer => ?_)
    cases answer <;> exact .pure rfl
  | _ => exact .found _

end nested

theorem kind_mirrored (likens : rules.Likens rules' like) (h : NodesEchoed like m n)
    (hc : ChoicesEchoed like rules rules' m n) {k : BuiltinKind} {spec : FieldSpec}
    (kind : spec.kind = k.tag) (fixed : spec.FixedPattern) {parts parts' : PartChecks Run}
    (hparts : PartsEchoed like spec parts parts') (alike : like (.value spec) raw raw')
    (place : Place) :
    Kind.Mirrored (k.check (context rules m other spec place) parts spec.info raw)
      (k.check (context rules' n other' spec place) parts' spec.info raw') := by
  cases flat : k.isNested with
  | false =>
    rw [BuiltinKind.check_eq_verdict flat fixed rfl, BuiltinKind.check_eq_verdict flat fixed rfl,
      likens.verdict kind flat alike]
    exact .pure _
  | true =>
    cases k with
    | node =>
      simp only [BuiltinKind.check, Kind.checkNode]
      split
      next => exact .found _
      next target declared =>
        have below := likens.target kind declared alike
        exact .of_echoed ((h raw raw' target _ below).bind fun _ => .pure rfl)
    | choice =>
      simp only [BuiltinKind.check, Kind.checkChoice]
      split
      next => exact .found _
      next group declared =>
        have below := likens.group kind declared alike
        exact .of_echoed ((hc raw raw' group _ below).bind fun _ => .pure rfl)
    | list => exact list_mirrored likens hparts alike kind place
    | mapping => exact mapping_mirrored likens hparts alike kind place
    | either => exact either_mirrored likens hparts alike kind place
    | _ => cases flat

theorem checkAccepted_echoed (spec : FieldSpec) (v : Value) (path : List String) :
    Echoed Eq (checkAccepted rules spec raw v path) (checkAccepted rules' spec raw' v path) := by
  cases validator : spec.info.constraints.validator with
  | none =>
    simp only [checkAccepted, validator]
    exact .pure rfl
  | some check =>
    simp only [checkAccepted, validator]
    refine (Echoed.lift (check v)).bind fun verdict => ?_
    cases verdict with
    | pass => exact .pure rfl
    | fail => exact .of_flawed (Ensures.report.bind fun _ => .pure fun no => no)
    | failWith => exact .of_flawed (Ensures.report.bind fun _ => .pure fun no => no)

theorem checkWith_echoed (likens : rules.Likens rules' like) {ctx ctx' : KindContext Run}
    {parts parts' : PartChecks Run} {spec : FieldSpec} (alike : like (.value spec) raw raw')
    {path : List String}
    (h : Kind.Mirrored (rules.registry.kinds.check spec.kind ctx parts spec raw)
      (rules.registry.kinds.check spec.kind ctx' parts' spec raw')) :
    Echoed Eq (checkWith rules ctx parts spec raw path)
      (checkWith rules' ctx' parts' spec raw' path) := by
  unfold checkWith
  rw [← likens.kinds, ← likens.isNull alike, ← likens.isUndefined alike]
  refine .guard (.pure trivial) ?_
  split
  next =>
    split
    next => exact .pure rfl
    next => exact .of_flawed (Ensures.report.bind fun _ => .pure fun no => no)
  next =>
    split
    next => exact .of_flawed (Ensures.report.bind fun _ => .pure fun no => no)
    next =>
      have wrong : ∀ finding more, Ensures (do
          (finding :: more).forM (reportFinding rules path raw)
          return (none : Option Value)) fun _ => False := fun finding more =>
        (reportAll_ensures finding more).bind fun _ => .pure fun no => no
      refine h.bind wrong fun result => ?_
      match result with
      | .ok v => exact checkAccepted_echoed spec v path
      | .error [] => exact .pure rfl
      | .error (finding :: more) => exact .of_flawed (wrong finding more)

/-- One check of values is echoed by another one, for specifications that keep runs from
remembering. -/
def ValuesEchoed (like : Likeness) (c : KindCatalog) (value value' : ValueRun) : Prop :=
  ∀ spec, spec.Every (FieldSpec.Memoryless c) → ∀ raw raw' place, like (.value spec) raw raw' →
    Echoed Eq (value spec raw place) (value' spec raw' place)

/-- A text that is accepted as a key of integers comes out as the canonical spelling of one. -/
theorem key_of_integer {key : FieldSpec} (memoryless : key.Memoryless rules.registry.kinds)
    (kind : (key.kind == PartChecks.integerKeys) = true) (s : String) (place : Place) :
    Ensures (checkSpec rules m other key (.text s) place) Kind.KeyOfInteger := by
  obtain ⟨k, known⟩ := memoryless.builtin
  have tag : key.kind = BuiltinKind.integerText.tag := eq_of_beq kind
  obtain rfl : k = .integerText := BuiltinKind.tag_injective (known.1.symm.trans tag)
  rw [checkSpec_eq]
  refine Ensures.mono (checkWith_answers
    (P := BuiltinKind.Holds key.info.constraints .integerText) fun _ => ?_) ?_
  · rw [known.check_eq, BuiltinKind.check_eq_verdict rfl memoryless.fixed rfl]
    refine .pure ((BuiltinKind.verdict_settles rfl _ _).mono fun v hv => ?_)
    have holds := BuiltinKind.holds_of_verdict rfl hv rfl
    exact ⟨holds, holds.isUndefined_eq⟩
  · rintro _ ⟨v, rfl, hv⟩ t same
    cases same
    rcases hv with ⟨no, -⟩ | ⟨-, -, holds, -⟩
    · cases no
    · cases holds with
      | integerText small => exact ⟨_, small, rfl⟩

/-- The check of a value finds the same in values that are alike, if checks of nodes and choices
do. -/
theorem checkSpec_echoed (likens : rules.Likens rules' like) (h : NodesEchoed like m n)
    (hc : ChoicesEchoed like rules rules' m n) :
    ValuesEchoed like rules.registry.kinds (checkSpec rules m other)
      (checkSpec rules' n other') := by
  have whole : ∀ {spec : FieldSpec}, spec.Memoryless rules.registry.kinds →
      (∀ place : Place, PartsEchoed like spec
        (.ofSpec (fun part raw label =>
          checkSpec rules m other part raw ((place.inside spec).labelled label)) spec)
        (.ofSpec (fun part raw label =>
          checkSpec rules' n other' part raw ((place.inside spec).labelled label)) spec)) →
      ∀ raw raw' place, like (.value spec) raw raw' →
        Echoed Eq (checkSpec rules m other spec raw place)
          (checkSpec rules' n other' spec raw' place) := by
    intro spec memoryless parts raw raw' place alike
    obtain ⟨k, known⟩ := memoryless.builtin
    rw [checkSpec_eq, checkSpec_eq]
    refine checkWith_echoed likens alike ?_
    rw [known.check_eq, known.check_eq]
    exact kind_mirrored likens h hc known.1 memoryless.fixed (parts place) alike place
  intro spec plain
  induction spec with
  | leaf info => exact whole plain.self fun _ => .none
  | list info item ih =>
    exact whole plain.self fun place => .list fun raw raw' label => ih plain.item raw raw' _
  | mapping info key value ihKey ihValue =>
    refine whole plain.self fun place => .mapping (fun raw raw' label => ?_)
      (fun raw raw' label => ?_) fun kind s label => ?_
    · exact ihKey plain.key raw raw' _
    · exact ihValue plain.value raw raw' _
    · exact key_of_integer plain.key.self kind s _
  | either info primitive complex ihPrimitive ihComplex =>
    refine whole plain.self fun place => .either (fun raw raw' label => ?_) fun raw raw' label => ?_
    · exact ihPrimitive plain.primitive raw raw' _
    · exact ihComplex plain.complex raw raw' _

end Validation

end ShapedTree
