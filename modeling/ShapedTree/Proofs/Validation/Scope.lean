import Mathlib.Data.List.Chain
import ShapedTree.Proofs.Validation.NodeJournal

namespace ShapedTree

namespace Journal

/-- A step may be followed by another one: in a node by a field of its schema or by the shortform, in
a value by a part of the value or by a node. -/
def Step.Leads : Step → Step → Prop
  | .node schema _, .field spec draft => spec ∈ schema.fields ∧ draft.schema = schema.name
  | .node schema _, .shortform spec => schema.info.shortform.map Shortform.field = some spec
  | .field spec _, .part inner | .shortform spec, .part inner | .part spec, .part inner =>
    inner ∈ spec.parts
  | .field _ _, .node _ _ | .shortform _, .node _ _ | .part _, .node _ _ => True
  | _, _ => False

def Step.IsShortform : Step → Prop
  | .shortform _ => True
  | _ => False

/-- The arguments that an event tells of. -/
def Event.kwargs? : Event → Option Kwargs
  | .required _ kwargs => some kwargs
  | .generated _ args => some args.kwargs
  | .checked args => some args.kwargs
  | .within _ _ => none

/-- The ancestors that an event tells of. -/
def Event.stack? : Event → Option (List NodeView)
  | .generated _ args => some args.stack
  | .checked args => some args.stack
  | .required _ _ | .within _ _ => none

namespace Route

def drafts (route : Route) : List NodeView := route.flatMap Step.drafts

/-- The schemas of the nodes that a route goes through. -/
def schemas (route : Route) : List Schema :=
  route.filterMap fun
    | .node schema _ => some schema
    | _ => none

/-- The node inside of which a route starts, if it starts with a field. -/
def enclosing : Route → List String
  | .field _ draft :: _ => [draft.schema]
  | _ => []

end Route

variable {r : Registry} {kwargs : Kwargs} {stack : List NodeView} {e : Event} {route : Route}
  {journal : List Event}

theorem Given.kwargs_eq (standard : r.Every (FieldSpec.Standard r.kinds))
    (h : Given r kwargs stack e) {k : Kwargs} (told : e.kwargs? = some k) : k = kwargs := by
  cases h with
  | required | generated | checked => exact (Option.some.inj told).symm
  | within => cases told
  | custom foreign => exact absurd standard foreign

theorem Given.stack_eq (h : Given r kwargs stack e) {s : List NodeView}
    (told : e.stack? = some s) : s = stack := by
  induction h with
  | generated | checked => exact (Option.some.inj told).symm
  | required | within => cases told
  | custom _ _ ih => exact ih told

theorem Step.Fits.leads {step next : Step} {inside below : List Event}
    (standard : r.Every (FieldSpec.Standard r.kinds)) (h : step.Fits r inside)
    (mem : Event.within next below ∈ inside) : step.Leads next := by
  cases step with
  | node schema result =>
    have concerns := h.2.1 _ mem
    cases next with
    | field | shortform => exact concerns
    | node | part => exact concerns.elim
  | field spec draft | shortform spec | part spec =>
    have below := h _ mem
    cases next with
    | node => trivial
    | part => exact below standard
    | field | shortform => exact below.elim

/-- Every step of a route leads to the next one. -/
theorem Occurs.isChain (standard : r.Every (FieldSpec.Standard r.kinds))
    (occurs : Occurs e route journal) (h : ∀ e ∈ journal, Given r kwargs stack e) :
    route.IsChain Step.Leads := by
  induction occurs generalizing kwargs stack with
  | here => exact .nil
  | @within step inside journal route mem below ih =>
    obtain ⟨fits, _, -, inner⟩ := (h _ mem).behind
    refine (ih inner).cons fun next hnext => ?_
    cases below with
    | here => cases hnext
    | within mem' =>
      cases hnext
      exact fits.leads standard mem'

/-- A callback is called by the node at the end of its route. -/
theorem Occurs.caller (occurs : Occurs e route journal)
    (h : ∀ e ∈ journal, Given r kwargs stack e) {k : Kwargs} (told : e.kwargs? = some k) :
    e ∈ journal ∧ route = [] ∨
      ∃ above schema result, route = above ++ [.node schema result] ∧ e.IsOf schema := by
  induction occurs generalizing kwargs stack with
  | here mem => exact .inl ⟨mem, rfl⟩
  | @within step inside journal route mem below ih =>
    obtain ⟨fits, _, -, inner⟩ := (h _ mem).behind
    rcases ih inner with ⟨here, rfl⟩ | ⟨above, schema, result, rfl, concerns⟩
    · cases step with
      | node schema result => exact .inr ⟨[], schema, result, rfl, fits.2.1 e here⟩
      | field | shortform | part =>
        have below := fits e here
        cases e with
        | within => cases told
        | required | generated | checked => exact below.elim
    · exact .inr ⟨step :: above, schema, result, rfl, concerns⟩

/-- On a route to a node without shortforms, every node passes its draft on to the field that comes
next. -/
theorem drafts_of_isChain {above : Route} {last : Schema} {result : Except Fault (Option Node)}
    (chain : (above ++ [Step.node last result]).IsChain Step.Leads)
    (open_ : ∀ step ∈ above, ¬ step.IsShortform) :
    (Route.drafts above).map NodeView.schema =
      Route.enclosing above ++ (Route.schemas above).map Schema.name := by
  induction above with
  | nil => rfl
  | cons step rest ih =>
    obtain ⟨leads, chain⟩ := List.isChain_cons.mp chain
    obtain ⟨first, others⟩ := List.forall_mem_cons.mp open_
    have behind := ih chain others
    have drafts : (Route.drafts (step :: rest)).map NodeView.schema =
        step.drafts.map NodeView.schema ++ (Route.drafts rest).map NodeView.schema := by
      simp [Route.drafts]
    rw [drafts, behind]
    have next : ∀ s ∈ (rest ++ [Step.node last result]).head?, step.Leads s := leads
    cases step with
    | shortform => exact (first trivial).elim
    | field spec draft | part spec =>
      -- Behind a value there is no other field of the same node.
      have none : Route.enclosing rest = [] := by
        unfold Route.enclosing
        split
        next => exact (next _ rfl).elim
        next => rfl
      rw [none]
      rfl
    | node schema result' =>
      cases rest with
      | nil => exact (next _ rfl).elim
      | cons step rest =>
        have leads := next step rfl
        cases step with
        | field spec draft =>
          show [draft.schema] ++ _ = [] ++ schema.name :: _
          rw [leads.2]
          rfl
        | shortform => exact (others _ (List.mem_cons_self) trivial).elim
        | node | part => exact leads.elim

end Journal

open Journal

/-- What a callback of a node is given at the end of a route from the root, where validation was given
some arguments and ancestors. -/
structure Journal.InScope (o : ValidateOptions) (route : Route) (e : Event) : Prop where
  steps : route.IsChain Step.Leads
  kwargs : ∀ kwargs, e.kwargs? = some kwargs → kwargs = route.kwargs o.kwargs
  stack : ∀ stack, e.stack? = some stack → stack = o.stack ++ Route.drafts route
  caller : ∃ above schema result, route = above ++ [.node schema result] ∧ e.IsOf schema ∧
    ((∀ step ∈ above, ¬ step.IsShortform) →
      (Route.drafts route).map NodeView.schema = (Route.schemas above).map Schema.name)

/-- In a registry of built-in kinds, every callback of a node is given the caller's arguments with the
overrides of the specifications on its route, and the caller's ancestors with the drafts of the nodes
on its route. -/
theorem Registry.callbacks_in_scope {r : Registry} (builtin : r.Every (FieldSpec.Builtin r.kinds))
    (memory : Memory) (raw : Value) (name : String) (o : ValidateOptions) :
    (r.observe memory raw name o).1 = r.validate memory raw name o ∧
      ∀ route e kwargs, Occurs e route (r.observe memory raw name o).2 →
        e.kwargs? = some kwargs → InScope o route e := by
  have standard : r.Every (FieldSpec.Standard r.kinds) := builtin.mono fun _ h => h.standard
  obtain ⟨same, shown⟩ := r.observe_shows memory raw name o
  refine ⟨same, fun route e kwargs occurs told => ?_⟩
  have all : ∀ e ∈ (r.observe memory raw name o).2, Given r o.kwargs o.stack e :=
    fun e he => (shown e he).1
  obtain ⟨_, args, given⟩ := occurs.given all
  rw [args standard] at given
  have steps := occurs.isChain standard all
  refine ⟨steps, fun k hk => given.kwargs_eq standard hk, fun s hs => given.stack_eq hs, ?_⟩
  rcases occurs.caller all told with ⟨top, -⟩ | ⟨above, schema, result, rfl, concerns⟩
  · have node := (shown e top).2
    cases e with
    | within => cases told
    | required | generated | checked => exact node.elim
  · refine ⟨above, schema, result, rfl, concerns, fun open_ => ?_⟩
    have drafts : Route.drafts (above ++ [.node schema result]) = Route.drafts above := by
      simp [Route.drafts, Step.drafts]
    have outside : Route.enclosing above = [] := by
      cases above with
      | nil => rfl
      | cons step rest =>
        cases occurs with
        | within mem =>
          have node := (shown _ mem).2
          cases step with
          | node => rfl
          | field | shortform | part => exact node.elim
    rw [drafts, drafts_of_isChain steps open_, outside, List.nil_append]

namespace Garden

/-- The unit among the arguments. -/
def unit : FieldSpec := .leaf {
  name := "unit", kind := "json", required := false
  default? := some (.computed fun a => .ok ((a.kwargs.own? "unit").getD .null)) }

def plot : Schema where
  name := "plot"
  fields := [unit]
  info := { requires := some ["unit"] }

def bed : Schema where
  name := "bed"
  fields := [unit,
    .list { name := "plots", kind := "list", kwargs := some [("unit", .text "row")] }
      (.leaf { name := "plot", kind := "node", kwargs := some [("unit", .text "cell")]
               constraints := { target := some "plot" } })]

/-- A garden, whose beds and plots note the unit that they are measured in. -/
def registry : Registry where
  kinds := .builtin
  schemas := [plot, bed]
  frozen := true

theorem registry_builtin : registry.Every (FieldSpec.Builtin registry.kinds) := by
  simp only [Registry.Every, FieldSpec.Every, registry, plot, bed, unit, Schema.allFields,
    FieldSpec.walk, List.forall_mem_cons, Option.map_none, Option.toList_none, List.append_nil,
    List.not_mem_nil, false_imp_iff, implies_true, and_true]
  exact ⟨⟨.json, rfl, rfl⟩, ⟨.json, rfl, rfl⟩, ⟨.list, rfl, rfl⟩, ⟨.node, rfl, rfl⟩⟩

/-- A bed with one plot. -/
def draft : Value := .record [("plots", .list [.record [] true])] true

/-- A garden that is measured in acres. -/
def options : ValidateOptions := { kwargs := { entries := [("unit", .text "acre")] } }

set_option maxRecDepth 4000 in
/-- The plot is measured in the unit of the innermost specification. -/
theorem plot_in_scope :
    registry.Every (FieldSpec.Builtin registry.kinds) ∧ ∃ route args,
      Occurs (.generated unit args) route (registry.observe [] draft "bed" options).2 ∧
      route.length = 4 ∧ InScope options route (.generated unit args) ∧
      args.kwargs.own? "unit" = some (.text "cell") := by
  have given := (Registry.callbacks_in_scope registry_builtin [] draft "bed" options).2
  have called : ∃ route args,
      Occurs (.generated unit args) route (registry.observe [] draft "bed" options).2 ∧
      route.length = 4 ∧ args.kwargs.own? "unit" = some (.text "cell") :=
    ⟨_, _, .within (List.mem_singleton.mpr rfl) (.within (.tail _ (.tail _ (.tail _ (.head _))))
      (.within (.head _) (.within (.head _) (.here (.tail _ (.head _)))))), rfl, rfl⟩
  obtain ⟨route, args, occurs, length, cell⟩ := called
  exact ⟨registry_builtin, route, args, occurs, length, given route _ args.kwargs occurs rfl, cell⟩

end Garden

end ShapedTree
