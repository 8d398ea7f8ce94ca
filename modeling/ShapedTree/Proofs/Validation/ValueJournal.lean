import ShapedTree.Proofs.Kind.Inquiry
import ShapedTree.Proofs.Kind.Standard
import ShapedTree.Proofs.Validation.Journal

namespace ShapedTree

theorem Kwargs.override_override (k : Kwargs) (overrides : Option (Entries Value)) :
    (k.override overrides).override overrides = k.override overrides := by
  cases overrides with
  | none => rfl
  | some es => exact congrArg (Kwargs.mk · true) (Record.merge_merge k.entries es)

/-- What a node has of the given fields, in their order. -/
def NodeOf.only {α : Type} (n : NodeOf α) (fields : List String) : Entries α :=
  fields.filterMap fun f => (n.get? f).map fun v => (f, v)

open Run Observed

namespace Journal

/-- What the check of a node notes goes on into the node. -/
def Event.IsNode : Event → Prop
  | .within (.node _ _) _ => True
  | _ => False

/-- What the check of a value notes goes on into a node or into a part of the value. Only a custom
kind asks for the values of other specifications. -/
def Event.IsBelow (r : Registry) (spec : FieldSpec) : Event → Prop
  | .within (.node _ _) _ => True
  | .within (.part part) _ => r.Every (FieldSpec.Standard r.kinds) → part ∈ spec.parts
  | _ => False

theorem Event.IsNode.isBelow {r : Registry} {spec : FieldSpec} {e : Event} (h : e.IsNode) :
    e.IsBelow r spec := by
  unfold IsNode at h
  split at h
  next => trivial
  next => exact h.elim

/-- What the check of a schema's node notes concerns the schema. -/
def Event.IsOf (schema : Schema) : Event → Prop
  | .required names _ => names = schema.info.requires.getD []
  | .generated spec args => spec ∈ schema.fields ∧ args.field = spec.name
  | .checked _ => True
  | .within (.field spec draft) _ => spec ∈ schema.fields ∧ draft.schema = schema.name
  | .within (.shortform spec) _ => schema.info.shortform.map Shortform.field = some spec
  | .within (.node _ _) _ | .within (.part _) _ => False

/-- Every generator that is called for a node sees as its siblings what the node has of the fields
that are declared before its own. -/
def Foreseen (schema : Schema) (n : Node) (events : List Event) : Prop :=
  ∀ spec args, Event.generated spec args ∈ events → ∃ before after,
    schema.fields = before ++ spec :: after ∧
    args.siblings = .ofList (n.only (before.map FieldSpec.name))

/-- Events are such as are noted behind a step. -/
def Step.Fits (r : Registry) : Step → List Event → Prop
  | .node schema result, inside => schema ∈ r.schemas ∧ (∀ e ∈ inside, e.IsOf schema) ∧
    (schema.fieldNames.Nodup → ∀ n, result = .ok (some n) → Foreseen schema n inside)
  | .field spec _, inside | .shortform spec, inside | .part spec, inside =>
    ∀ e ∈ inside, e.IsBelow r spec

/-- An event is noted where the given arguments hold and where the given ancestors are above it. Only
a custom kind puts other arguments in their place. -/
inductive Given (r : Registry) : Kwargs → List NodeView → Event → Prop
  | required {kwargs : Kwargs} {stack : List NodeView} (names : List String) :
      Given r kwargs stack (.required names kwargs)
  | generated {kwargs : Kwargs} {stack : List NodeView} (spec : FieldSpec) (siblings : Snapshot)
      (field : String) : Given r kwargs stack (.generated spec ⟨stack, siblings, kwargs, field⟩)
  | checked {kwargs : Kwargs} {stack : List NodeView} (values : Snapshot) :
      Given r kwargs stack (.checked ⟨values, stack, kwargs⟩)
  | within {kwargs : Kwargs} {stack : List NodeView} {step : Step} {inside : List Event}
      (fits : step.Fits r inside)
      (below : ∀ e ∈ inside, Given r (kwargs.override step.overrides) (stack ++ step.drafts) e) :
      Given r kwargs stack (.within step inside)
  | custom {kwargs other : Kwargs} {stack : List NodeView} {e : Event}
      (custom : ¬ r.Every (FieldSpec.Standard r.kinds)) (given : Given r other stack e) :
      Given r kwargs stack e

section occurrences

variable {r : Registry} {kwargs : Kwargs} {stack : List NodeView} {e : Event}

/-- What is noted behind a step fits the step. Where there is no custom kind, the arguments there are
those before the step with its overrides. -/
theorem Given.behind {step : Step} {inside : List Event}
    (h : Given r kwargs stack (.within step inside)) :
    step.Fits r inside ∧ ∃ given, (r.Every (FieldSpec.Standard r.kinds) → given = kwargs) ∧
      ∀ e ∈ inside, Given r (Kwargs.override given step.overrides) (stack ++ step.drafts) e := by
  generalize noted : Event.within step inside = e at h
  induction h with
  | required | generated | checked => cases noted
  | @within kwargs stack step inside fits below =>
    cases noted
    exact ⟨fits, kwargs, fun _ => rfl, below⟩
  | custom foreign _ ih =>
    obtain ⟨fits, given, -, below⟩ := ih noted
    exact ⟨fits, given, fun standard => absurd standard foreign, below⟩

/-- An event at the end of a route is given the ancestors that the route goes through. Where there is
no custom kind, it is given the arguments that the route overrides. -/
theorem Occurs.given {route : Route} {journal : List Event} (occurs : Occurs e route journal)
    (h : ∀ e ∈ journal, Given r kwargs stack e) :
    ∃ given, (r.Every (FieldSpec.Standard r.kinds) → given = route.kwargs kwargs) ∧
      Given r given (route.stack stack) e := by
  induction occurs generalizing kwargs stack with
  | here mem => exact ⟨kwargs, fun _ => rfl, by simpa [Route.stack] using h e mem⟩
  | @within step inside journal route mem _ ih =>
    obtain ⟨-, before, same, below⟩ := (h _ mem).behind
    obtain ⟨given, args, last⟩ := ih below
    refine ⟨given, fun standard => ?_, ?_⟩
    · rw [args standard, same standard]
      rfl
    · simpa [Route.stack] using last

end occurrences

/-- What the check of a value notes at the place of its parts. -/
abbrev Belongs (r : Registry) (spec : FieldSpec) (place : Place) (e : Event) : Prop :=
  Given r (place.inside spec).kwargs place.stack e ∧ e.IsBelow r spec

variable {rules : Rules} {good : Event → Prop}

section runs

variable {α : Type} {y : Watch α} {x : Run α}

theorem trial_shows (h : Shows good y x) : Shows good (trial y) (Run.trial x) := by
  intro s seen
  obtain ⟨events, run, all⟩ := h { memory := s.memory } seen
  refine ⟨events, ?_, all⟩
  simp only [trial, Run.trial, run]
  rcases x { memory := s.memory } with ⟨e | a, t⟩ <;> rfl

theorem afresh_shows (cells : List Nat) (h : Shows good y x) :
    Shows good (afresh cells y) (Run.afresh cells x) :=
  .after fun _ => .after fun _ => .bind h fun _ => .after fun _ => .pure

theorem guard_shows {z : Watch α} {w : Run α} (hz : Shows good z w) (h : Shows good y x) :
    Shows good (do if ← silent (Run.halted rules) then z else y)
      (do if ← Run.halted rules then w else x) := by
  refine .after fun stopped => ?_
  cases stopped with
  | true => exact hz
  | false => exact h

end runs

section kinds

variable {item : PartCheck Watch} {item' : PartCheck Run}

theorem checkItems_shows (h : ∀ raw label, Shows good (item raw label) (item' raw label))
    (index : Nat) (items : List Value) :
    Shows good (Kind.checkItems (silent (Run.halted rules)) item index items)
      (Kind.checkItems (Run.halted rules) item' index items) := by
  induction items generalizing index with
  | nil => exact .pure
  | cons raw rest ih =>
    refine .bind (h _ _) fun first => guard_shows .pure (.bind (ih (index + 1)) fun others => ?_)
    cases first <;> cases others <;> exact .pure

theorem checkEntries_shows {byInteger : Bool} {key value : PartCheck Watch}
    {key' value' : PartCheck Run} (hkey : ∀ raw label, Shows good (key raw label) (key' raw label))
    (hvalue : ∀ raw label, Shows good (value raw label) (value' raw label)) (failed : Bool)
    (done : Entries Value) (es : List (String × Value)) :
    Shows good
      (Kind.checkEntries (silent (Run.halted rules)) byInteger key value failed done es)
      (Kind.checkEntries (Run.halted rules) byInteger key' value' failed done es) := by
  induction es generalizing failed done with
  | nil => exact .pure
  | cons e rest ih =>
    unfold Kind.checkEntries
    refine .bind (hkey _ _) fun k => .bind (hvalue _ _) fun v => ?_
    split
    next =>
      split
      next => exact .pure
      next => exact guard_shows .pure (ih _ _)
    next => exact guard_shows .pure (ih _ _)

end kinds

section choice

open Choice

variable {node : NodeWatch} {node' : NodeRun} {raw : Value} {place : Place}

theorem matching_shows (h : ∀ name, Shows good (node raw name place) (node' raw name place))
    (names : List String) :
    Shows good (matching node raw place names) (Choice.matching node' raw place names) := by
  induction names with
  | nil => exact .pure
  | cons name rest ih =>
    refine .bind (trial_shows (h name)) fun (found, issues, log) => .bind ih fun others => ?_
    cases found with
    | none => exact .pure
    | some n => exact .pure

theorem byFit_eq (group : String) (members : List (String × String)) (types : List String) :
    byFit rules node' raw group place members types =
      Choice.matching node' raw place (members.map Prod.snd) >>=
        settle rules raw group place types := by
  unfold byFit settle
  rfl

theorem byType_shows (h : ∀ name, Shows good (node raw name place) (node' raw name place))
    (group : String) (members : List (String × String)) (types : List String) (type : Value) :
    Shows good (byType rules node raw group place members types type)
      (Choice.byType rules node' raw group place members types type) := by
  unfold byType
  split
  next target found =>
    simp only [Choice.byType, found]
    exact h target
  next none =>
    simp only [Choice.byType, none]
    exact .silent

theorem choice_shows (h : ∀ name, Shows good (node raw name place) (node' raw name place))
    (group : String) :
    Shows good (choice rules node raw group place) (Choice.check rules node' raw group place) := by
  unfold choice check
  refine guard_shows .pure ?_
  simp only
  generalize Text.sortByUnits ((rules.registry.choiceMembers group).map Prod.fst) = types
  cases namedType? raw with
  | some type => exact byType_shows h group _ types type
  | none =>
    -- The members of a group are none, one or several.
    have several : ∀ members : List (String × String), Shows good
        (do
          if isEmptyRecord raw then
            silent (Run.report rules place.path .constraintViolation
              s!"the object needs a 'type' field. {validTypes types}" none (some raw))
            return none
          else
            let found ← matching node raw place (members.map Prod.snd)
            silent (settle rules raw group place types found))
        (do
          if isEmptyRecord raw then
            Run.report rules place.path .constraintViolation
              s!"the object needs a 'type' field. {validTypes types}" none (some raw)
            return none
          else byFit rules node' raw group place members types) := by
      intro members
      rw [byFit_eq]
      cases isEmptyRecord raw with
      | true => exact .after fun _ => .pure
      | false => exact .bind (matching_shows h _) fun _ => .silent
    rcases rules.registry.choiceMembers group with _ | ⟨⟨type, only⟩, _ | ⟨second, rest⟩⟩
    · exact several []
    · exact h only
    · exact several ((type, only) :: second :: rest)

end choice

/-- Checks of nodes note what belongs to the place of the node. -/
def NodesShow (r : Registry) (node : NodeWatch) (node' : NodeRun) : Prop :=
  ∀ raw name (place : Place), Shows (fun e => Given r place.kwargs place.stack e ∧ e.IsNode)
    (node raw name place) (node' raw name place)

/-- A specification of a custom kind is met only where there are custom kinds. -/
def Allowed (r : Registry) (spec : FieldSpec) : Prop :=
  r.Every (FieldSpec.Standard r.kinds) → spec.Every (FieldSpec.Standard r.kinds)

/-- Checks of values note what belongs to the place of the values' parts. -/
def ValuesShow (r : Registry) (value : ValueWatch) (value' : ValueRun) : Prop :=
  ∀ spec, Allowed r spec → ∀ raw (place : Place),
    Shows (Belongs r spec place) (value spec raw place) (value' spec raw place)

/-- The checks of a specification's parts note what is good. -/
inductive PartsShow (good : Event → Prop) : PartChecks Watch → PartChecks Run → Prop
  | none : PartsShow good .none .none
  | list {item : PartCheck Watch} {item' : PartCheck Run}
      (hitem : ∀ raw label, Shows good (item raw label) (item' raw label)) :
      PartsShow good (.list item) (.list item')
  | mapping {byInteger : Bool} {key value : PartCheck Watch} {key' value' : PartCheck Run}
      (hkey : ∀ raw label, Shows good (key raw label) (key' raw label))
      (hvalue : ∀ raw label, Shows good (value raw label) (value' raw label)) :
      PartsShow good (.mapping byInteger key value) (.mapping byInteger key' value')
  | either {primitive complex : PartCheck Watch} {primitive' complex' : PartCheck Run}
      (hprimitive : ∀ raw label, Shows good (primitive raw label) (primitive' raw label))
      (hcomplex : ∀ raw label, Shows good (complex raw label) (complex' raw label)) :
      PartsShow good (.either primitive complex) (.either primitive' complex')

variable {node : NodeWatch} {node' : NodeRun} {other : ValueWatch} {other' : ValueRun}
  {spec : FieldSpec} {place : Place}

/-- What is noted behind a step into a value belongs to the place before the step. -/
theorem within_shows {α : Type} {r : Registry} {kwargs : Kwargs} {stack : List NodeView}
    {P : Event → Prop} {part : FieldSpec} {y : Watch α} {x : Run α} (step : Step)
    (fits : ∀ inside, (∀ e ∈ inside, e.IsBelow r part) → step.Fits r inside)
    (own : ∀ inside, P (.within step inside)) (h : Shows (Belongs r part place) y x)
    (args : kwargs.override step.overrides = (place.inside part).kwargs)
    (ancestors : stack ++ step.drafts = place.stack) :
    Shows (fun e => Given r kwargs stack e ∧ P e) (within step y) x := by
  refine Shows.enclosed h fun _ inside all => ⟨.within ?_ fun e he => ?_, own inside⟩
  · exact fits inside fun e he => (all e he).2
  · rw [args, ancestors]
    exact (all e he).1

theorem part_shows (h : ValuesShow rules.registry other other') {part : FieldSpec}
    (allowed : Allowed rules.registry part)
    (own : rules.registry.Every (FieldSpec.Standard rules.registry.kinds) → part ∈ spec.parts)
    (raw : Value) (label : String) :
    Shows (Belongs rules.registry spec place)
      (within (.part part) (other part raw ((place.inside spec).labelled label)))
      (other' part raw ((place.inside spec).labelled label)) :=
  within_shows (.part part) (fun _ all => all) (fun _ => own)
    (h part allowed raw ((place.inside spec).labelled label)) rfl (List.append_nil _)

/-- A node that a kind asks for, with the specification's own overrides unless the kind is a custom
one. -/
theorem node_shows (h : NodesShow rules.registry node node')
    {overrides : Option (Entries Value)}
    (own : rules.registry.Every (FieldSpec.Standard rules.registry.kinds) →
      overrides = spec.info.kwargs) (raw : Value) (name : String) :
    Shows (Belongs rules.registry spec place)
      (node raw name ((place.inside spec).below overrides))
      (node' raw name ((place.inside spec).below overrides)) := by
  refine (h raw name _).mono fun _ events all e he => ⟨?_, (all e he).2.isBelow⟩
  have given := (all e he).1
  by_cases standard : rules.registry.Every (FieldSpec.Standard rules.registry.kinds)
  · have same : ((place.inside spec).below overrides).kwargs = (place.inside spec).kwargs := by
      rw [own standard]
      exact Kwargs.override_override place.kwargs spec.info.kwargs
    exact same ▸ given
  · exact .custom standard given

theorem checkText_shows (c : Constraints) (raw : Value) :
    Shows good (Kind.checkText (fun p s => silent (Run.test p s)) c raw)
      (Kind.checkText Run.test c raw) := by
  unfold Kind.checkText
  split
  next =>
    split
    next => exact .pure
    next =>
      split
      next => exact .pure
      next =>
        refine .after fun found => ?_
        cases found <;> exact .pure
  next => exact .pure

theorem builtin_shows {parts : PartChecks Watch} {parts' : PartChecks Run}
    (hnode : ∀ raw name, Shows good
      (node raw name ((place.inside spec).below spec.info.kwargs))
      (node' raw name ((place.inside spec).below spec.info.kwargs)))
    (hparts : PartsShow good parts parts') (k : BuiltinKind) (raw : Value) :
    Shows good (k.check (context rules node other spec place) parts spec.info raw)
      (k.check (Validation.context rules node' other' spec place) parts' spec.info raw) := by
  cases nested : k.isNested with
  | false =>
    cases k with
    | string | identifier | pattern =>
      exact .bind (checkText_shows spec.info.constraints raw) fun _ => .pure
    | node | choice | list | mapping | either => cases nested
    | _ => exact .pure
  | true =>
    obtain ⟨q, asks, same⟩ := BuiltinKind.check_asks nested spec.info raw
    rw [same, same]
    cases asks with
    | mismatch | length => exact .pure
    | node => exact .bind (hnode raw _) fun _ => .pure
    | choice => exact .bind (choice_shows (hnode raw) _) fun _ => .pure
    | items =>
      cases hparts with
      | list hitem => exact .bind (checkItems_shows hitem 0 _) fun _ => .pure
      | _ => exact .pure
    | entries =>
      cases hparts with
      | mapping hkey hvalue => exact checkEntries_shows hkey hvalue false [] _
      | _ => exact .pure
    | form =>
      cases hparts with
      | either hprimitive hcomplex =>
        simp only [Kind.Inquiry.result]
        cases raw.isPrimitive with
        | true => exact .bind (hprimitive raw "") fun _ => .pure
        | false => exact .bind (hcomplex raw "") fun _ => .pure
      | _ => exact .pure

theorem dialogue_shows
    (hnode : ∀ raw name overrides, Shows good
      (node raw name ((place.inside spec).below overrides))
      (node' raw name ((place.inside spec).below overrides)))
    (hvalue : ∀ part raw label, Shows good
      (within (.part part) (other part raw ((place.inside spec).labelled label)))
      (other' part raw ((place.inside spec).labelled label))) (d : Dialogue) :
    Shows good (d.run (context rules node other spec place))
      (d.run (Validation.context rules node' other' spec place)) := by
  induction d with
  | answer result => exact .pure
  | fail fault => exact .throw
  | halted next ih => exact .after fun stopped => ih stopped
  | node raw name overrides next ih => exact .bind (hnode raw name overrides) fun n => ih n
  | choice raw group overrides next ih =>
    exact .bind (choice_shows (fun name => hnode raw name overrides) group) fun n => ih n
  | value part raw label next ih => exact .bind (hvalue part raw label) fun v => ih v
  | afresh part rest ih => exact afresh_shows _ ih

/-- The check of a kind notes what belongs to the place of the value's parts. -/
theorem kind_shows (hnode : NodesShow rules.registry node node')
    (hother : ValuesShow rules.registry other other') (allowed : Allowed rules.registry spec)
    {parts : PartChecks Watch} {parts' : PartChecks Run}
    (hparts : PartsShow (Belongs rules.registry spec place) parts parts') (raw : Value) :
    Shows (Belongs rules.registry spec place)
      (rules.registry.kinds.check spec.kind (context rules node other spec place) parts spec raw)
      (rules.registry.kinds.check spec.kind (Validation.context rules node' other' spec place)
        parts' spec raw) := by
  unfold KindCatalog.check
  split
  next => exact .pure
  next d known =>
    unfold KindDefinition.check
    split
    next k rule => exact builtin_shows (node_shows hnode fun _ => rfl) hparts k raw
    next custom rule =>
      have foreign : ¬ rules.registry.Every (FieldSpec.Standard rules.registry.kinds) := by
        intro standard
        obtain ⟨k, -, rfl⟩ := (allowed standard).self d known
        cases rule
      exact dialogue_shows (fun raw name overrides => node_shows hnode (absurd · foreign) raw name)
        (fun part => part_shows hother (absurd · foreign) (absurd · foreign)) _

theorem checkWith_shows {ctx : KindContext Watch} {ctx' : KindContext Run}
    {parts : PartChecks Watch} {parts' : PartChecks Run} {raw : Value} (path : List String)
    (h : Shows good (rules.registry.kinds.check spec.kind ctx parts spec raw)
      (rules.registry.kinds.check spec.kind ctx' parts' spec raw)) :
    Shows good (checkWith rules ctx parts spec raw path)
      (Validation.checkWith rules ctx' parts' spec raw path) := by
  unfold checkWith Validation.checkWith
  refine guard_shows .pure ?_
  split
  next =>
    split
    next => exact .pure
    next => exact .after fun _ => .pure
  next =>
    split
    next => exact .after fun _ => .pure
    next =>
      refine .bind h fun result => ?_
      cases result with
      | error findings => exact .after fun _ => .pure
      | ok v => exact .silent

theorem Allowed.part {r : Registry} {part : FieldSpec} (h : Allowed r spec)
    (mem : part ∈ spec.parts) : Allowed r part :=
  fun standard => (h standard).part mem

theorem checkSpec_shows (hnode : NodesShow rules.registry node node')
    (hother : ValuesShow rules.registry other other') :
    ValuesShow rules.registry (checkSpec rules node other)
      (Validation.checkSpec rules node' other') := by
  intro spec
  -- A part is checked at a place inside of the whole, behind a step of its own.
  have inner : ∀ {whole part : FieldSpec}, part ∈ whole.parts →
      (∀ raw (place : Place), Shows (Belongs rules.registry part place)
        (checkSpec rules node other part raw place)
        (Validation.checkSpec rules node' other' part raw place)) →
      ∀ (place : Place) raw label, Shows (Belongs rules.registry whole place)
          (within (.part part)
            (checkSpec rules node other part raw ((place.inside whole).labelled label)))
          (Validation.checkSpec rules node' other' part raw ((place.inside whole).labelled label)) :=
    fun {whole part} mem h place raw label =>
      within_shows (.part part) (fun _ all => all) (fun _ _ => mem)
        (h raw ((place.inside whole).labelled label)) rfl (List.append_nil _)
  induction spec with
  | leaf info =>
    intro allowed raw place
    exact checkWith_shows _ (kind_shows hnode hother allowed .none raw)
  | list info item ih =>
    intro allowed raw place
    have mem : item ∈ (FieldSpec.list info item).parts := by simp [FieldSpec.parts]
    exact checkWith_shows _
      (kind_shows hnode hother allowed (.list (inner mem (ih (allowed.part mem)) place)) raw)
  | mapping info key value ihKey ihValue =>
    intro allowed raw place
    have memKey : key ∈ (FieldSpec.mapping info key value).parts := by simp [FieldSpec.parts]
    have memValue : value ∈ (FieldSpec.mapping info key value).parts := by simp [FieldSpec.parts]
    exact checkWith_shows _ (kind_shows hnode hother allowed
      (.mapping (inner memKey (ihKey (allowed.part memKey)) place)
        (inner memValue (ihValue (allowed.part memValue)) place)) raw)
  | either info primitive complex ihPrimitive ihComplex =>
    intro allowed raw place
    have memPrimitive : primitive ∈ (FieldSpec.either info primitive complex).parts := by
      simp [FieldSpec.parts]
    have memComplex : complex ∈ (FieldSpec.either info primitive complex).parts := by
      simp [FieldSpec.parts]
    exact checkWith_shows _ (kind_shows hnode hother allowed
      (.either (inner memPrimitive (ihPrimitive (allowed.part memPrimitive)) place)
        (inner memComplex (ihComplex (allowed.part memComplex)) place)) raw)

theorem checkValue_shows (hnode : NodesShow rules.registry node node') (questions : Nat) :
    ValuesShow rules.registry (checkValue rules node questions)
      (Validation.checkValue rules node' questions) := by
  induction questions with
  | zero => exact checkSpec_shows hnode fun _ _ _ _ => .throw
  | succ questions ih => exact checkSpec_shows hnode ih

end Journal

end ShapedTree
