import ShapedTree.Proofs.Validation.Drafts
import ShapedTree.Proofs.Validation.NodeSoundness
import ShapedTree.Proofs.Validation.ValueJournal

namespace ShapedTree

open Run Observed

namespace Journal

variable {rules : Rules}

open Validation (Slot Slot.name)

variable {value : ValueWatch} {value' : ValueRun} {schema : Schema} {record : Entries Value}
  {place : Place}

/-- What the check of a schema's node notes. -/
abbrev Noted (r : Registry) (schema : Schema) (place : Place) (e : Event) : Prop :=
  Given r place.kwargs place.stack e ∧ e.IsOf schema

/-- The call of a generator. -/
def Event.Generates : Event → Prop
  | .generated _ _ => True
  | _ => False

/-- What the check of a schema's node notes besides the calls of generators. -/
abbrev Aside (r : Registry) (schema : Schema) (place : Place) (e : Event) : Prop :=
  Given r place.kwargs place.stack e ∧ e.IsOf schema ∧ ¬ e.Generates

theorem Aside.noted {r : Registry} {e : Event} (h : Aside r schema place e) :
    Noted r schema place e := ⟨h.1, h.2.1⟩

theorem allowed_field (found : schema ∈ rules.registry.schemas) {spec : FieldSpec}
    (declared : spec ∈ schema.allFields) : Allowed rules.registry spec :=
  fun standard => standard schema found spec declared

theorem expand_shows (h : ValuesShow rules.registry value value')
    (found : schema ∈ rules.registry.schemas) (raw : Value) :
    Shows (Aside rules.registry schema place)
      (expand rules value raw schema place) (Validation.expand rules value' raw schema place) := by
  unfold expand
  split
  next short shape declared =>
    have named : schema.info.shortform.map Shortform.field = some short.field := by
      rw [declared, Option.map_some]
    have allowed : Allowed rules.registry short.field :=
      allowed_field found (by simp [Schema.allFields, declared])
    simp only [Validation.expand, shape, declared]
    refine .bind (within_shows (.shortform short.field) (fun _ all => all) (fun _ => ⟨named, id⟩)
      (h short.field allowed raw _) rfl (List.append_nil _)) fun answer => ?_
    cases answer with
    | none => exact .pure
    | some v => exact .after fun _ => .pure
  next plain =>
    have same : Validation.expand rules (fun _ _ _ => return none) raw schema place =
        Validation.expand rules value' raw schema place := by
      unfold Validation.expand
      split
      next => rfl
      next shape =>
        split
        next => rfl
        next short declared => exact (plain short shape declared).elim
    rw [same]
    exact .silent

theorem resolve_shows (h : ValuesShow rules.registry value value')
    (found : schema ∈ rules.registry.schemas) {spec : FieldSpec} (declared : spec ∈ schema.fields)
    {draft : Draft} (own : draft.schema = schema.name) (raw : Value) (mark : Bool) :
    Shows (Aside rules.registry schema place)
      (resolve value place draft spec raw mark)
      (Validation.resolve value' place draft spec raw mark) := by
  have allowed : Allowed rules.registry spec :=
    allowed_field found (by simp [Schema.allFields, declared])
  refine .bind (within_shows (.field spec draft.view) (fun _ all => all)
    (fun _ => ⟨⟨declared, own⟩, id⟩) (h spec allowed raw _) rfl rfl) fun answer => ?_
  cases answer <;> exact .pure

/-- A draft goes on to another one that differs at most in the given fields. -/
def Keeps (fields : List String) (d d' : Draft) : Prop :=
  d'.schema = d.schema ∧ ∀ f, f ∉ fields → d'.get? f = d.get? f

theorem Keeps.refl (fields : List String) (d : Draft) : Keeps fields d d := ⟨rfl, fun _ _ => rfl⟩

theorem Keeps.cons {field : String} {fields : List String} {d d' d'' : Draft}
    (first : Keeps [field] d d') (rest : Keeps fields d' d'') : Keeps (field :: fields) d d'' := by
  refine ⟨rest.1.trans first.1, fun f apart => ?_⟩
  have other : f ≠ field := List.ne_of_not_mem_cons apart
  exact (rest.2 f (List.not_mem_of_not_mem_cons apart)).trans (first.2 f (by simpa using other))

theorem Keeps.snapshot_eq {fields names : List String} {d d' : Draft} (h : Keeps fields d d')
    (apart : ∀ f ∈ names, f ∉ fields) : d'.snapshot names = d.snapshot names := by
  unfold Draft.snapshot Draft.entries
  refine congrArg Snapshot.ofList (List.filterMap_congr fun f hf => ?_)
  rw [Draft.value?, Draft.value?, h.2 f (apart f hf)]

theorem resolve_keeps (draft : Draft) (spec : FieldSpec) (raw : Value) (mark : Bool) :
    Returns (Validation.resolve value' place draft spec raw mark) (Keeps [spec.name] draft) := by
  refine .bind fun answer => ?_
  cases answer with
  | none => exact .pure (.refl _ _)
  | some v =>
    refine .pure ⟨rfl, fun f apart => ?_⟩
    rw [Draft.get?_set, if_neg (List.ne_of_not_mem_cons apart)]

theorem resolved_keeps {fields : List String} {f : Draft → Run Draft}
    (h : ∀ d, Returns (f d) (Keeps fields d)) (draft : Draft) (spec : FieldSpec) (raw : Value)
    (mark : Bool) :
    Returns (Validation.resolve value' place draft spec raw mark >>= f)
      (Keeps (spec.name :: fields) draft) := by
  refine (resolve_keeps draft spec raw mark).bind_of fun d first => ?_
  intro s last t run
  exact first.cons (h d s last t run)

theorem firstPass_keeps (specs : List FieldSpec) (draft : Draft) :
    Returns (Validation.firstPass rules value' schema record place draft specs) fun r =>
      r.2.schema = draft.schema := by
  induction specs generalizing draft with
  | nil => exact .pure rfl
  | cons spec rest ih =>
    have next : ∀ (slot : Slot) (d : Draft), d.schema = draft.schema → Returns (do
        let r ← Validation.firstPass rules value' schema record place d rest
        return (slot :: r.1, r.2)) fun r : List Slot × Draft => r.2.schema = draft.schema :=
      fun slot d same => (ih d).bind_of fun r hr => .pure (hr.trans same)
    unfold Validation.firstPass
    refine .bind fun stopped => ?_
    cases stopped with
    | true => exact next _ draft rfl
    | false =>
      refine .bind fun started => ?_
      rcases started with _ | ⟨raw, mark⟩
      · exact next _ draft rfl
      · simp only
        split
        next => exact next _ draft rfl
        next => exact (resolve_keeps draft spec raw mark).bind_of fun d hd => next _ d hd.1

theorem secondPass_keeps (slots : List Slot) (earlier : List String) (draft : Draft) :
    Returns (Validation.secondPass rules value' place earlier draft slots)
      (Keeps (slots.map Slot.name) draft) := by
  induction slots generalizing earlier draft with
  | nil => exact .pure (.refl _ _)
  | cons slot rest ih =>
    have skipped : Returns
        (Validation.secondPass rules value' place (earlier ++ [slot.spec.name]) draft rest)
        (Keeps ((slot :: rest).map Slot.name) draft) := by
      intro s d t run
      exact (Keeps.refl [slot.name] draft).cons (ih _ draft s d t run)
    have taken : ∀ raw mark, Returns (do
        let d ← Validation.resolve value' place draft slot.spec raw mark
        Validation.secondPass rules value' place (earlier ++ [slot.spec.name]) d rest)
        (Keeps ((slot :: rest).map Slot.name) draft) :=
      resolved_keeps (ih (earlier ++ [slot.spec.name])) draft slot.spec
    unfold Validation.secondPass
    refine .bind fun stopped => ?_
    cases stopped with
    | true => exact skipped
    | false =>
      simp only [Bool.false_eq_true, if_false]
      split
      next raw mark _ => exact taken raw mark
      next => exact .bind fun raw => taken raw true
      next => exact skipped

theorem firstPass_shows (h : ValuesShow rules.registry value value')
    (found : schema ∈ rules.registry.schemas) {specs : List FieldSpec}
    (declared : ∀ spec ∈ specs, spec ∈ schema.fields) {draft : Draft}
    (own : draft.schema = schema.name) :
    Shows (Aside rules.registry schema place)
      (firstPass rules value schema record place draft specs)
      (Validation.firstPass rules value' schema record place draft specs) := by
  induction specs generalizing draft with
  | nil => exact .pure
  | cons spec rest ih =>
    obtain ⟨first, others⟩ := List.forall_mem_cons.mp declared
    unfold firstPass Validation.firstPass
    refine guard_shows (.bind (ih others own) fun _ => .pure) (.after fun started => ?_)
    rcases started with _ | ⟨raw, mark⟩
    · exact .bind (ih others own) fun _ => .pure
    · simp only
      split
      next => exact .bind (ih others own) fun _ => .pure
      next =>
        refine .bind_returns (resolve_shows h found first own raw mark)
          (resolve_keeps draft spec raw mark) fun d hd => ?_
        exact .bind (ih others (hd.1.trans own)) fun _ => .pure

/-- Every generator that is called for a slot sees as its siblings what a draft has of the fields of
the slots before. -/
def Snapshots (earlier : List String) (slots : List Slot) (last : Draft) (events : List Event) :
    Prop :=
  ∀ spec args, Event.generated spec args ∈ events → ∃ before slot after,
    slots = before ++ slot :: after ∧ slot.spec = spec ∧
    args.siblings = last.snapshot (earlier ++ before.map Slot.name)

theorem Snapshots.shift {earlier : List String} {slot : Slot} {rest : List Slot} {last : Draft}
    {events : List Event} (h : Snapshots (earlier ++ [slot.name]) rest last events) :
    Snapshots earlier (slot :: rest) last events := by
  intro spec args mem
  obtain ⟨before, s, after, rfl, same, seen⟩ := h spec args mem
  refine ⟨slot :: before, s, after, rfl, same, ?_⟩
  rw [seen, List.map_cons, List.append_assoc]
  rfl

theorem Snapshots.before_others {earlier : List String} {slots : List Slot} {last : Draft}
    {events others : List Event} (h : Snapshots earlier slots last events)
    (other : ∀ e ∈ others, ¬ e.Generates) : Snapshots earlier slots last (others ++ events) := by
  intro spec args mem
  rcases List.mem_append.mp mem with mem | mem
  · exact (other _ mem trivial).elim
  · exact h spec args mem

/-- What the second pass notes from a slot on, given what it comes to. -/
structure Recounts (r : Registry) (schema : Schema) (place : Place) (earlier : List String)
    (slots : List Slot) (result : Except Fault Draft) (events : List Event) : Prop where
  noted : ∀ e ∈ events, Noted r schema place e
  foreseen : (earlier ++ slots.map Slot.name).Nodup → ∀ last, result = .ok last →
    Snapshots earlier slots last events

theorem Recounts.failed {r : Registry} {earlier : List String} {slots : List Slot} {fault : Fault}
    {events : List Event} (noted : ∀ e ∈ events, Noted r schema place e) :
    Recounts r schema place earlier slots (.error fault) events where
  noted := noted
  foreseen _ last same := by cases same

theorem Recounts.shift {r : Registry} {earlier : List String} {slot : Slot} {rest : List Slot}
    {result : Except Fault Draft} {events : List Event}
    (h : Recounts r schema place (earlier ++ [slot.name]) rest result events) :
    Recounts r schema place earlier (slot :: rest) result events where
  noted := h.noted
  foreseen distinct last same := (h.foreseen (by simpa using distinct) last same).shift

theorem Recounts.before_others {r : Registry} {earlier : List String} {slots : List Slot}
    {result : Except Fault Draft} {events others : List Event}
    (h : Recounts r schema place earlier slots result events)
    (other : ∀ e ∈ others, Aside r schema place e) :
    Recounts r schema place earlier slots result (others ++ events) where
  noted := List.forall_mem_append.mpr ⟨fun e he => Aside.noted (other e he), h.noted⟩
  foreseen distinct last same :=
    (h.foreseen distinct last same).before_others fun e he => (other e he).2.2

/-- The call of a generator for a slot, before its field is set: the fields declared before are not
set any more. -/
theorem computed_tells {slot : Slot} {rest : List Slot} {earlier : List String} {draft : Draft}
    (declared : slot.spec ∈ schema.fields) (generate : Generator) {y : Value → Watch Draft}
    {x : Value → Run Draft}
    (keeps : ∀ raw, Returns (x raw) (Keeps ((slot :: rest).map Slot.name) draft))
    (h : ∀ raw, Tells (y raw) (x raw)
      (Recounts rules.registry schema place earlier (slot :: rest))) :
    Tells
      (consult (.generated slot.spec) generate
        ⟨place.stack, draft.snapshot earlier, place.kwargs, slot.spec.name⟩ >>= y)
      (liftM (generate ⟨place.stack, draft.snapshot earlier, place.kwargs, slot.spec.name⟩) >>= x)
      (Recounts rules.registry schema place earlier (slot :: rest)) := by
  generalize called : (⟨place.stack, draft.snapshot earlier, place.kwargs, slot.spec.name⟩ :
    GeneratorArgs) = args
  have noted : Noted rules.registry schema place (.generated slot.spec args) := by
    subst called
    exact ⟨.generated _ _ _, declared, rfl⟩
  have consulted : Tells (consult (.generated slot.spec) generate args : Watch Value)
      (liftM (generate args) : Run Value) fun _ events => events = [.generated slot.spec args] :=
    .consult fun _ => rfl
  refine consulted.bind ?_ ?_
  · rintro e events rfl
    exact .failed (List.forall_mem_singleton.mpr noted)
  · rintro raw events rfl
    refine ((h raw).returns (keeps raw)).mono fun r more ⟨recounts, kept⟩ => ⟨?_, ?_⟩
    · exact List.forall_mem_cons.mpr ⟨noted, recounts.noted⟩
    · intro distinct last same spec args' mem
      rcases List.mem_cons.mp mem with new | mem
      · cases new
        have apart : ∀ f ∈ earlier, f ∉ (slot :: rest).map Slot.name :=
          fun f hf other => (List.nodup_append.mp distinct).2.2 f hf f other rfl
        refine ⟨[], slot, rest, rfl, rfl, ?_⟩
        rw [List.map_nil, List.append_nil, (kept last same).snapshot_eq apart, ← called]
      · exact recounts.foreseen distinct last same spec args' mem

theorem secondPass_tells (h : ValuesShow rules.registry value value')
    (found : schema ∈ rules.registry.schemas) {slots : List Slot}
    (declared : ∀ slot ∈ slots, slot.spec ∈ schema.fields) (earlier : List String) {draft : Draft}
    (own : draft.schema = schema.name) :
    Tells (secondPass rules value place earlier draft slots)
      (Validation.secondPass rules value' place earlier draft slots)
      (Recounts rules.registry schema place earlier slots) := by
  induction slots generalizing earlier draft with
  | nil => exact .pure ⟨List.forall_mem_nil _, fun _ _ _ _ _ mem => by cases mem⟩
  | cons slot rest ih =>
    obtain ⟨first, others⟩ := List.forall_mem_cons.mp declared
    have skipped : Tells (secondPass rules value place (earlier ++ [slot.name]) draft rest)
        (Validation.secondPass rules value' place (earlier ++ [slot.name]) draft rest)
        (Recounts rules.registry schema place earlier (slot :: rest)) :=
      (ih others _ own).mono fun _ _ recounts => recounts.shift
    have taken : ∀ mark raw, Tells
        (do
          let d ← resolve value place draft slot.spec raw mark
          secondPass rules value place (earlier ++ [slot.name]) d rest)
        (do
          let d ← Validation.resolve value' place draft slot.spec raw mark
          Validation.secondPass rules value' place (earlier ++ [slot.name]) d rest)
        (Recounts rules.registry schema place earlier (slot :: rest)) := by
      intro mark raw
      refine ((resolve_shows h found first own raw mark).returns
        (resolve_keeps draft slot.spec raw mark)).bind ?_ ?_
      · rintro fault events ⟨all, -⟩
        exact .failed fun e he => Aside.noted (all e he)
      · rintro d events ⟨all, keeps⟩
        refine (ih others _ ((keeps d rfl).1.trans own)).mono fun r more recounts => ?_
        exact recounts.shift.before_others all
    unfold secondPass Validation.secondPass
    refine .after (fun _ => .failed (List.forall_mem_nil _)) fun stopped => ?_
    cases stopped with
    | true => exact skipped
    | false =>
      simp only [Bool.false_eq_true, if_false]
      -- A value waits, a default is computed, or the slot is left as it is.
      cases slot.waiting with
      | some waiting => exact taken waiting.2 waiting.1
      | none =>
        cases slot.supplied with
        | true => exact skipped
        | false =>
          cases slot.spec.info.default? with
          | none => exact skipped
          | some default =>
            cases default with
            | computed generate =>
              exact computed_tells first generate
                (fun raw => resolved_keeps (secondPass_keeps rest _) draft slot.spec raw true)
                (taken true)
            | constant | factory | counting => exact skipped

theorem checkNode_shows (draft : Draft) :
    Shows (Aside rules.registry schema place)
      (checkNode rules schema draft place) (Validation.checkNode rules schema draft place) := by
  unfold checkNode Validation.checkNode
  cases schema.info.validator with
  | none => exact .pure
  | some check =>
    refine .bind (.consult ⟨.checked _, trivial, id⟩) fun verdict => ?_
    cases verdict with
    | pass => exact .pure
    | fail => exact .after fun _ => .pure
    | failWith => exact .after fun _ => .pure

/-- Once the draft is complete, the node is made of it if nothing is wrong. -/
theorem finish_tells {before : RunState} {draft : Draft} (slots : List Slot) :
    Tells
      (do
        silent (Validation.checkMissing rules schema place slots)
        let after ← silent (get : Run RunState)
        if before.issues.size < after.issues.size then return none
        else if ← silent (Run.halted rules) then return none
        else if ← checkNode rules schema draft place then
          return some (draft.finish schema.fieldNames schema.choiceType schema.compactable)
        else return none)
      (do
        Validation.checkMissing rules schema place slots
        if before.issues.size < (← (get : Run RunState)).issues.size then return none
        else if ← Run.halted rules then return none
        else if ← Validation.checkNode rules schema draft place then
          return some (draft.finish schema.fieldNames schema.choiceType schema.compactable)
        else return none)
      fun r events =>
        (∀ e ∈ events, Aside rules.registry schema place e) ∧
        ∀ answer, r = .ok answer → ∀ n, answer = some n →
          n = draft.finish schema.fieldNames schema.choiceType schema.compactable := by
  refine Tells.returns (Shows.after fun _ => Shows.after fun after => ?_) ?_
  · split
    next => exact Shows.pure
    next =>
      refine guard_shows .pure (Shows.bind (checkNode_shows draft) fun passed => ?_)
      cases passed <;> exact .pure
  · refine Returns.bind fun _ => Returns.bind fun after => ?_
    split
    next => exact .pure nofun
    next =>
      refine .bind fun stopped => ?_
      cases stopped with
      | true => exact .pure nofun
      | false =>
        refine .bind fun passed => ?_
        cases passed with
        | false => exact .pure nofun
        | true => exact .pure fun n same => (Option.some.inj same).symm

/-- What the draft shows of the fields, the finished node has. -/
theorem snapshot_eq_only {draft : Draft} (distinct : schema.fieldNames.Nodup) {names : List String}
    (declared : ∀ f ∈ names, f ∈ schema.fieldNames) :
    draft.snapshot names = .ofList
      ((draft.finish schema.fieldNames schema.choiceType schema.compactable).only names) := by
  unfold Draft.snapshot Draft.entries NodeOf.only NodeOf.get?
  refine congrArg Snapshot.ofList (List.filterMap_congr fun f hf => ?_)
  rw [Draft.lookup_finish distinct (declared f hf)]

theorem foreseen_of_snapshots {slots : List Slot} {last : Draft} {events : List Event}
    (distinct : schema.fieldNames.Nodup) (specs : slots.map Slot.spec = schema.fields)
    (h : Snapshots [] slots last events) :
    Foreseen schema (last.finish schema.fieldNames schema.choiceType schema.compactable) events := by
  intro spec args mem
  obtain ⟨before, slot, after, rfl, rfl, seen⟩ := h spec args mem
  rw [List.map_append, List.map_cons] at specs
  refine ⟨before.map Slot.spec, after.map Slot.spec, specs.symm, ?_⟩
  have names : before.map Slot.name = (before.map Slot.spec).map FieldSpec.name := by
    rw [List.map_map]
    rfl
  rw [seen, List.nil_append, names]
  refine snapshot_eq_only distinct fun f hf => ?_
  rw [Schema.fieldNames, ← specs, List.map_append]
  exact List.mem_append_left _ hf

/-- What is noted of a node, given what becomes of it. -/
structure NodeNoted (r : Registry) (schema : Schema) (place : Place)
    (result : Except Fault (Option Node)) (events : List Event) : Prop where
  noted : ∀ e ∈ events, Noted r schema place e
  foreseen : schema.fieldNames.Nodup → ∀ n, result = .ok (some n) → Foreseen schema n events

theorem NodeNoted.of_noted {r : Registry} {result : Except Fault (Option Node)}
    {events : List Event} (noted : ∀ e ∈ events, Noted r schema place e)
    (refused : ∀ n, result ≠ .ok (some n)) : NodeNoted r schema place result events :=
  ⟨noted, fun _ n same => (refused n same).elim⟩

theorem NodeNoted.behind {r : Registry} {result : Except Fault (Option Node)}
    {before events : List Event} (h : NodeNoted r schema place result events)
    (others : ∀ e ∈ before, Aside r schema place e) :
    NodeNoted r schema place result (before ++ events) where
  noted := List.forall_mem_append.mpr ⟨fun e he => Aside.noted (others e he), h.noted⟩
  foreseen distinct n same spec args mem := by
    rcases List.mem_append.mp mem with mem | mem
    · exact ((others _ mem).2.2 trivial).elim
    · exact h.foreseen distinct n same spec args mem

theorem behind_tells {before : List Event} {y : Watch (Option Node)} {x : Run (Option Node)}
    (others : ∀ e ∈ before, Aside rules.registry schema place e)
    (h : Tells y x (NodeNoted rules.registry schema place)) :
    Tells y x fun result events =>
      NodeNoted rules.registry schema place result (before ++ events) :=
  h.mono fun _ _ notes => notes.behind others

theorem checkFields_tells (h : ValuesShow rules.registry value value')
    (found : schema ∈ rules.registry.schemas) :
    Tells (checkFields rules value schema record place)
      (Validation.checkFields rules value' schema record place)
      (NodeNoted rules.registry schema place) := by
  have failed : ∀ e, NodeNoted rules.registry schema place (.error e) [] :=
    fun _ => .of_noted (List.forall_mem_nil _) nofun
  unfold checkFields Validation.checkFields
  refine .after failed fun before => .after failed fun _ => .after failed fun _ => ?_
  -- The first pass calls no generator and leaves a slot for each field.
  have first : Shows (Aside rules.registry schema place)
      (firstPass rules value schema record place { schema := schema.name } schema.fields)
      (Validation.firstPass rules value' schema record place { schema := schema.name }
        schema.fields) := firstPass_shows h found (fun _ hs => hs) rfl
  refine (first.returns (Returns.and (Validation.firstPass_returns _ _) (firstPass_keeps _ _))).bind
    (fun e events ⟨all, _⟩ => ?_) fun (slots, draft) one ⟨all, left⟩ => ?_
  · exact .of_noted (fun e he => Aside.noted (all e he)) nofun
  obtain ⟨specs, own⟩ := left _ rfl
  have declared : ∀ slot ∈ slots, slot.spec ∈ schema.fields := fun slot hslot =>
    specs ▸ List.mem_map_of_mem hslot
  refine behind_tells all ?_
  refine (secondPass_tells h found declared [] own).bind (fun e events recounts => ?_)
    fun last two recounts => ?_
  · exact .of_noted recounts.noted nofun
  refine (finish_tells slots).mono fun r three ⟨others, finished⟩ => ⟨?_, fun distinct n same => ?_⟩
  · exact List.forall_mem_append.mpr
      ⟨recounts.noted, fun e he => Aside.noted (others e he)⟩
  · obtain rfl := finished _ same n rfl
    have names : slots.map Slot.name = schema.fieldNames := by
      rw [Schema.fieldNames, ← specs, List.map_map]
      rfl
    have seen := recounts.foreseen (names ▸ distinct) last rfl
    refine foreseen_of_snapshots distinct specs fun spec args mem => ?_
    rcases List.mem_append.mp mem with mem | mem
    · exact seen spec args mem
    · exact ((others _ mem).2.2 trivial).elim

theorem consult_bind {α β γ : Type} (event : γ → Event) (f : γ → α) (args : γ) (g : α → Watch β) :
    consult event (fun args => .ok (f args)) args >>= g =
      note (event args) >>= fun _ => g (f args) := rfl

theorem checkNodeWith_shows (h : ValuesShow rules.registry value value') :
    NodesShow rules.registry (checkNodeWith rules value)
      (Validation.checkNodeWith rules value') := by
  intro raw name place
  unfold checkNodeWith Validation.checkNodeWith
  refine guard_shows .pure ?_
  cases known : rules.registry.find? name with
  | none => exact .after fun _ => .pure
  | some schema =>
    have found : schema ∈ rules.registry.schemas := List.mem_of_find?_eq_some known
    suffices told : Tells _ _ (NodeNoted rules.registry schema place) from
      told.enclosed fun result inside notes => List.forall_mem_singleton.mpr
        ⟨.within ⟨found, fun e he => (notes.noted e he).2, notes.foreseen⟩ fun e he => by
          simpa [Step.drafts, Step.overrides, Kwargs.override] using (notes.noted e he).1, trivial⟩
    have quiet : ∀ result : Except Fault (Option Node), (∀ n, result ≠ .ok (some n)) →
        NodeNoted rules.registry schema place result [] :=
      fun _ refused => .of_noted (List.forall_mem_nil _) refused
    have failed : ∀ (e : Fault) (n : Node),
        (.error e : Except Fault (Option Node)) ≠ .ok (some n) := fun e n same => by cases same
    have absent : ∀ n : Node, (.ok none : Except Fault (Option Node)) ≠ .ok (some n) :=
      fun n same => by cases same
    split
    next => exact .after (fun e => quiet _ (failed e)) fun _ => .pure (quiet _ absent)
    next =>
      simp only [consult_bind]
      have asked : ∀ e ∈ [Event.required (schema.info.requires.getD []) place.kwargs],
          Aside rules.registry schema place e :=
        List.forall_mem_singleton.mpr ⟨.required _, rfl, id⟩
      refine .noted (behind_tells asked ?_)
      split
      next => exact .throw (quiet _ (failed _))
      next =>
        refine Tells.bind (expand_shows h found raw) (fun e events all => ?_)
          fun answer events all => ?_
        · exact .of_noted (fun e he => Aside.noted (all e he)) (failed e)
        refine behind_tells all ?_
        cases answer with
        | none => exact .pure (quiet _ absent)
        | some record => exact checkFields_tells h found

theorem checkNodeAt_shows (levels : Nat) :
    NodesShow rules.registry (checkNodeAt rules levels) (Validation.checkNodeAt rules levels) := by
  induction levels with
  | zero => exact fun _ _ _ => .throw
  | succ levels ih => exact checkNodeWith_shows (checkValue_shows ih _)

end Journal

/-- The observed validation is the validation, and its journal is given what was given to it. -/
theorem Registry.observe_shows (r : Registry) (memory : Memory) (raw : Value) (schema : String)
    (o : ValidateOptions) :
    (r.observe memory raw schema o).1 = r.validate memory raw schema o ∧
      ∀ e ∈ (r.observe memory raw schema o).2,
        Journal.Given r o.kwargs o.stack e ∧ e.IsNode := by
  unfold observe validate
  cases r.frozen with
  | false => exact ⟨rfl, List.forall_mem_nil _⟩
  | true =>
    obtain ⟨events, run, given⟩ := Journal.checkNodeAt_shows (Validation.levels o.maxDepth) raw
      schema ⟨[], o.stack, o.kwargs, 1⟩ { memory } []
    have observed : o.observe r raw schema memory =
        ((o.run r raw schema { memory }).1, (o.run r raw schema { memory }).2, events) := run
    simp only [Bool.not_true, Bool.false_eq_true, if_false]
    rw [observed]
    refine ⟨?_, given⟩
    rcases o.run r raw schema { memory } with ⟨e | (_ | n), t⟩ <;> rfl

end ShapedTree
