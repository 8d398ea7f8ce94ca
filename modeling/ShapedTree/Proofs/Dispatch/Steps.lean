import ShapedTree.Proofs.Dispatch.History
import ShapedTree.Proofs.Run.Observation
import ShapedTree.Proofs.Schema.History

namespace ShapedTree

/-- The ancestors of a node in a tree, from the root to its parent; each holds the next one in a
field. -/
inductive NodeOf.Descends (root : Node) : List Node → Node → Prop
  | root : Descends root [] root
  | child {above : List Node} {n c : Node} {field : String} (reached : Descends root above n)
      (held : n.child? field = some c) : Descends root (above ++ [n]) c

namespace Traversal

/-- An implementation goes on only to children of its node, with its own stack. -/
inductive Descending (node : Node) (stack : List NodeView) : Traversal → Prop
  | done (result : Except Fault Value) : Descending node stack (.done result)
  | child {op : Operation} {field : String} {kwargs : Kwargs} {next : Except Fault Value → Traversal}
      (h : ∀ result, Descending node stack (next result)) :
      Descending node stack (.askChild op node field stack kwargs next)

/-- An implementation ends with the fault of a dispatch that fails; it catches none. -/
inductive Propagating : Traversal → Prop
  | done (result : Except Fault Value) : Propagating (.done result)
  | ask {op : Operation} {node : Node} {stack : List NodeView} {kwargs : Kwargs}
      {next : Except Fault Value → Traversal}
      (passed : ∀ fault, next (.error fault) = .done (.error fault))
      (h : ∀ v, Propagating (next (.ok v))) : Propagating (.ask op node stack kwargs next)
  | askChild {op : Operation} {node : Node} {field : String} {stack : List NodeView}
      {kwargs : Kwargs} {next : Except Fault Value → Traversal}
      (passed : ∀ fault, next (.error fault) = .done (.error fault))
      (h : ∀ v, Propagating (next (.ok v))) : Propagating (.askChild op node field stack kwargs next)

end Traversal

/-- An implementation that goes on only to children, whatever it is given. -/
def Registration.Descending (reg : Registration) : Prop :=
  ∀ schema node stack kwargs, (reg.impl schema node stack kwargs).Descending node stack

/-- An implementation that catches no fault, whatever it is given. -/
def Registration.Propagating (reg : Registration) : Prop :=
  ∀ schema node stack kwargs, (reg.impl schema node stack kwargs).Propagating

namespace Dispatcher

/-- What happens in a traversal: a dispatch begins, an implementation is invoked, it asks for the
node that a field holds, it comes to an end. -/
inductive Step where
  | dispatched (op : Operation) (node : Node) (stack : List NodeView) (kwargs : Kwargs)
  | invoked (op : Operation) (schema : Schema) (binding : Binding) (node : Node)
      (stack : List NodeView) (kwargs : Kwargs)
  | descended (node : Node) (field : String)
  | ended (result : Except Fault Value)

end Dispatcher

open Dispatcher Observed

/-- A traversal whose dispatches are answered, step by step. -/
def Traversal.observe
    (invoke : Operation → Node → List NodeView → Kwargs → Observed (Array LogEntry) Step Value) :
    Traversal → Observed (Array LogEntry) Step Value
  | .done result => do
    note (.ended result)
    silent (liftM result)
  | .ask op node stack kwargs next => do
    observe invoke (next (← observing (invoke op node stack kwargs)))
  | .askChild op node field stack kwargs next => do
    let result ← observing do
      note (.descended node field)
      let child ← silent (liftM (childOf node field))
      invoke op child (stack ++ [node.view]) kwargs
    observe invoke (next result)

namespace Dispatcher

/-- A dispatch that may nest further dispatches so many levels deep, step by step. -/
def observeAt (d : Dispatcher) (r : Registry) : (levels : Nat) →
    Operation → Node → List NodeView → Kwargs → Observed (Array LogEntry) Step Value
  | 0 => fun _ _ _ _ => throw .overflow
  | levels + 1 => fun op node stack kwargs => do
    note (.dispatched op node stack kwargs)
    let depth := stack.length + 1
    let (schema, binding) ← silent (liftM (d.select r op node depth kwargs))
    silent (Logged.log .debug s!"dispatch {op.name} on {schema.name} at depth {depth}")
    note (.invoked op schema binding node stack kwargs)
    (binding.run schema node stack kwargs).observe (observeAt d r levels)

/-- What a dispatch comes to and logs, and its steps. -/
def observe (d : Dispatcher) (r : Registry) (op : Operation) (node : Node)
    (stack : List NodeView) (kwargs : Kwargs) (log : Array LogEntry) :
    (Except Fault Value × Array LogEntry) × List Step :=
  let (result, log, steps) := d.observeAt r (levelLimit + node.count) op node stack kwargs (log, [])
  ((result, log), steps)

/-- A depth is at most the bound of the dispatcher, if it has one; the undefined number bounds
nothing. -/
def Admits (d : Dispatcher) (depth : Nat) : Prop :=
  ∀ bound, d.maxDepth = some bound → bound ≠ .nan → (depth : Number).le bound = true

/-- An implementation that is invoked is at its place. -/
structure Placed (d : Dispatcher) (regs : List Registration) (r : Registry) (root : Node)
    (initial : List NodeView) (op : Operation) (schema : Schema) (binding : Binding) (node : Node)
    (stack : List NodeView) (kwargs : Kwargs) : Prop where
  ancestors : ∃ above, root.Descends above node ∧ stack = initial ++ above.map Node.view
  schema : r.find? node.schema = some schema
  registered : ∃ reg ∈ regs, reg.For node.schema op.name ∧ reg.binding = binding
  args : ∀ key, key ∈ binding.requires ∨ key ∈ op.requires → kwargs.has key = true
  depth : d.Admits (stack.length + 1)

/-- A step stands against the traversal, which then fails with a fault. Of all that may stand against
a dispatch, only the first one counts. -/
inductive Offends (d : Dispatcher) (regs : List Registration) (r : Registry) : Step → Fault → Prop
  | depth {op : Operation} {node : Node} {stack : List NodeView} {kwargs : Kwargs} {bound : Number}
      (set : d.maxDepth = some bound) (above : bound.lt ((stack.length + 1 : Nat)) = true) :
      Offends d regs r (.dispatched op node stack kwargs)
        (.depthExceeded op.name (stack.length + 1) bound.text)
  | schema {op : Operation} {node : Node} {stack : List NodeView} {kwargs : Kwargs}
      (admitted : d.Admits (stack.length + 1)) (unknown : r.find? node.schema = none) :
      Offends d regs r (.dispatched op node stack kwargs)
        (.schemaNotFound node.schema (didYouMean node.schema r.names))
  | operation {op : Operation} {node : Node} {stack : List NodeView} {kwargs : Kwargs}
      {schema : Schema} (admitted : d.Admits (stack.length + 1))
      (known : r.find? node.schema = some schema)
      (never : ∀ reg ∈ regs, ¬ reg.For node.schema op.name) :
      Offends d regs r (.dispatched op node stack kwargs)
        (.unknownOperation node.schema op.name (d.suggestFor op.name node.schema))
  | argument {op : Operation} {node : Node} {stack : List NodeView} {kwargs : Kwargs}
      {schema : Schema} {reg : Registration} (admitted : d.Admits (stack.length + 1))
      (known : r.find? node.schema = some schema) (mem : reg ∈ regs)
      (concerns : reg.For node.schema op.name)
      (missing : kwargs.missing (reg.op.requires ++ op.requires).eraseDups ≠ []) :
      Offends d regs r (.dispatched op node stack kwargs)
        (.missingOperands op.name (kwargs.missing (reg.op.requires ++ op.requires).eraseDups))
  | child {node : Node} {field : String} (none : node.child? field = none) :
      Offends d regs r (.descended node field) (.notANode field node.schema)
  | implementation (fault : Fault) : Offends d regs r (.ended (.error fault)) fault

/-- The first step that stands against a traversal does so with a fault. -/
def FirstOffence (d : Dispatcher) (regs : List Registration) (r : Registry) (steps : List Step)
    (fault : Fault) : Prop :=
  ∃ before step after, steps = before ++ step :: after ∧
    (∀ s ∈ before, ∀ f, ¬ Offends d regs r s f) ∧ Offends d regs r step fault

variable {d : Dispatcher} {regs : List Registration} {r : Registry}

theorem lt_eq_not_le {bound : Number} (number : bound ≠ .nan) (depth : Nat) :
    bound.lt depth = !(depth : Number).le bound := by
  cases bound with
  | nan => exact (number rfl).elim
  | infinity negative => cases negative <;> rfl
  | finite q =>
    have order : q < (depth : Rat) ↔ ¬ ((depth : Rat) < q ∨ (depth : Rat) = q) := by
      grind
    simp only [Number.lt, Number.le, Number.same, Number.finite.injEq, decide_eq_decide.mpr order,
      decide_not, Bool.decide_or]

theorem not_admits_iff {depth : Nat} :
    ¬ d.Admits depth ↔ ∃ bound, d.maxDepth = some bound ∧ bound.lt depth = true := by
  constructor
  · intro exceeded
    simp only [Admits, not_forall] at exceeded
    obtain ⟨bound, set, number, above⟩ := exceeded
    refine ⟨bound, set, ?_⟩
    rw [lt_eq_not_le number, Bool.eq_false_iff.mpr above]
    rfl
  · rintro ⟨bound, set, above⟩ admitted
    have number : bound ≠ .nan := by
      rintro rfl
      cases above
    rw [lt_eq_not_le number, admitted bound set number] at above
    cases above

theorem missing_eq_nil_iff {kwargs : Kwargs} {first second : List String} :
    kwargs.missing (first ++ second).eraseDups = [] ↔
      ∀ key, key ∈ first ∨ key ∈ second → kwargs.has key = true := by
  unfold Kwargs.missing
  rw [List.filter_eq_nil_iff]
  simp only [List.mem_eraseDups, List.mem_append, Bool.not_eq_true', Bool.not_eq_false]

theorem Made.requires_eq (made : d.Made regs) {reg reg' : Registration} {schema operation : String}
    (mem : reg ∈ regs) (mem' : reg' ∈ regs) (concerns : reg.For schema operation)
    (concerns' : reg'.For schema operation) : reg.op.requires = reg'.op.requires :=
  congrArg Binding.requires (made.unique mem mem' concerns concerns')

/-- Nothing stands against a dispatch, and what it invokes was registered. -/
structure Accepted (d : Dispatcher) (regs : List Registration) (r : Registry) (op : Operation)
    (node : Node) (stack : List NodeView) (kwargs : Kwargs) (schema : Schema)
    (reg : Registration) : Prop where
  admitted : d.Admits (stack.length + 1)
  known : r.find? node.schema = some schema
  mem : reg ∈ regs
  concerns : reg.For node.schema op.name
  given : kwargs.missing (reg.op.requires ++ op.requires).eraseDups = []

theorem Accepted.not_offends (made : d.Made regs) {op : Operation} {node : Node}
    {stack : List NodeView} {kwargs : Kwargs} {schema : Schema} {reg : Registration}
    (h : Accepted d regs r op node stack kwargs schema reg) (fault : Fault) :
    ¬ Offends d regs r (.dispatched op node stack kwargs) fault := by
  intro offends
  cases offends with
  | depth set above => exact not_admits_iff.mpr ⟨_, set, above⟩ h.admitted
  | schema _ unknown => cases unknown.symm.trans h.known
  | operation _ _ never => exact never reg h.mem h.concerns
  | argument _ _ mem concerns missing =>
    rw [made.requires_eq mem h.mem concerns h.concerns] at missing
    exact missing h.given

theorem Accepted.placed {root : Node} {initial stack : List NodeView} {above : List Node}
    {op : Operation} {node : Node} {kwargs : Kwargs} {schema : Schema} {reg : Registration}
    (h : Accepted d regs r op node stack kwargs schema reg) (reached : root.Descends above node)
    (ancestors : stack = initial ++ above.map Node.view) :
    Placed d regs r root initial op schema reg.binding node stack kwargs where
  ancestors := ⟨above, reached, ancestors⟩
  schema := h.known
  registered := ⟨reg, h.mem, h.concerns, rfl⟩
  args := missing_eq_nil_iff.mp h.given
  depth := h.admitted

/-- A step stands against a traversal in one way. -/
theorem Offends.unique (made : d.Made regs) {step : Step} {f g : Fault}
    (h : Offends d regs r step f) (h' : Offends d regs r step g) : f = g := by
  cases h with
  | depth set above =>
    have exceeded := not_admits_iff.mpr ⟨_, set, above⟩
    cases h' with
    | depth set' above' => cases set.symm.trans set'; rfl
    | schema admitted | operation admitted | argument admitted => exact (exceeded admitted).elim
  | schema admitted unknown =>
    cases h' with
    | depth set above => exact (not_admits_iff.mpr ⟨_, set, above⟩ admitted).elim
    | schema => rfl
    | operation _ known | argument _ known => cases unknown.symm.trans known
  | operation admitted known never =>
    cases h' with
    | depth set above => exact (not_admits_iff.mpr ⟨_, set, above⟩ admitted).elim
    | schema _ unknown => cases unknown.symm.trans known
    | operation => rfl
    | argument _ _ mem concerns => exact (never _ mem concerns).elim
  | argument admitted known mem concerns missing =>
    cases h' with
    | depth set above => exact (not_admits_iff.mpr ⟨_, set, above⟩ admitted).elim
    | schema _ unknown => cases unknown.symm.trans known
    | operation _ _ never => exact (never _ mem concerns).elim
    | argument _ _ mem' concerns' => rw [made.requires_eq mem mem' concerns concerns']
  | child => cases h'; rfl
  | implementation => cases h'; rfl

/-- Where the bound is not exceeded, it does not matter. -/
theorem select_of_admits {op : Operation} {node : Node} {depth : Nat} (admitted : d.Admits depth)
    (kwargs : Kwargs) : d.select r op node depth kwargs = (do
      let schema ← r.lookup node.schema
      match d.find? schema.name op.name with
      | none => throw (.unknownOperation schema.name op.name (d.suggestFor op.name schema.name))
      | some binding =>
        let missing := kwargs.missing (binding.requires ++ op.requires).eraseDups
        if missing ≠ [] then throw (.missingOperands op.name missing)
        return (schema, binding)) := by
  unfold select
  cases set : d.maxDepth with
  | none => rfl
  | some bound =>
    have within : ¬ bound.lt depth = true := fun above =>
      not_admits_iff.mpr ⟨bound, set, above⟩ admitted
    exact if_neg within

/-- A dispatch invokes what was registered, unless something stands against it. -/
theorem select_cases (made : d.Made regs) (op : Operation) (node : Node) (stack : List NodeView)
    (kwargs : Kwargs) :
    (∃ schema reg, d.select r op node (stack.length + 1) kwargs = .ok (schema, reg.binding) ∧
      Accepted d regs r op node stack kwargs schema reg) ∨
    ∃ fault, d.select r op node (stack.length + 1) kwargs = .error fault ∧
      Offends d regs r (.dispatched op node stack kwargs) fault := by
  by_cases admitted : d.Admits (stack.length + 1)
  · have within : d.select r op node _ kwargs = _ := select_of_admits admitted kwargs
    by_cases known : ∃ schema, r.find? node.schema = some schema
    · obtain ⟨schema, known⟩ := known
      have named : schema.name = node.schema := Registry.name_of_find? known
      have looked : r.lookup node.schema = .ok schema := by simp only [Registry.lookup, known]
      by_cases taken : ∃ binding, d.find? node.schema op.name = some binding
      · obtain ⟨binding, taken⟩ := taken
        obtain ⟨reg, mem, concerns, rfl⟩ := made.find?_eq_some_iff.mp taken
        by_cases missing : kwargs.missing (reg.op.requires ++ op.requires).eraseDups = []
        · refine .inl ⟨schema, reg, ?_, admitted, known, mem, concerns, missing⟩
          simp only [within, looked, Bind.bind, Except.bind, named, taken]
          exact if_neg (not_not_intro missing)
        · refine .inr ⟨_, ?_, .argument admitted known mem concerns missing⟩
          simp only [within, looked, Bind.bind, Except.bind, named, taken]
          exact if_pos missing
      · have none : d.find? node.schema op.name = none :=
          Option.eq_none_iff_forall_ne_some.mpr (not_exists.mp taken)
        refine .inr ⟨_, ?_, .operation admitted known (made.find?_eq_none_iff.mp none)⟩
        simp only [within, looked, Bind.bind, Except.bind, named, none]
        rfl
    · have unknown : r.find? node.schema = none :=
        Option.eq_none_iff_forall_ne_some.mpr (not_exists.mp known)
      refine .inr ⟨_, ?_, .schema admitted unknown⟩
      simp only [within, Registry.lookup, unknown]
      rfl
  · obtain ⟨bound, set, above⟩ := not_admits_iff.mp admitted
    refine .inr ⟨_, ?_, .depth set above⟩
    unfold select
    rw [set]
    exact if_pos above

end Dispatcher

end ShapedTree
