import ShapedTree.Proofs.Schema.Description
import ShapedTree.Proofs.Schema.Occurrences
import ShapedTree.Proofs.Validation.FailFast
import ShapedTree.Proofs.Validation.NodeCalls

namespace ShapedTree

open Run

namespace Registry

variable {r : Registry} {spec : FieldSpec}

theorem Whole.known (h : r.Whole spec) : r.kinds.has spec.kind = true := by
  by_contra unknown
  exact h _ _ (.kind (Bool.eq_false_iff.mpr unknown))

theorem Whole.registered (h : r.Whole spec) (kind : spec.kind = BuiltinKind.node.tag)
    {target : String} (named : spec.info.constraints.target = some target) :
    r.has target = true := by
  by_contra absent
  exact h _ _ (.schema kind named (Bool.eq_false_iff.mpr absent))

theorem Whole.populated (h : r.Whole spec) (kind : spec.kind = BuiltinKind.choice.tag)
    {group : String} (named : spec.info.constraints.choice = some group) :
    r.choiceMembers group ≠ [] := fun empty => h _ _ (.choice kind named empty)

theorem Coherent.has_of_member (coherent : r.Coherent) {group type name : String}
    (member : (type, name) ∈ r.choiceMembers group) : r.has name = true := by
  obtain ⟨s, found, -⟩ := (coherent.member_iff group type name).mp member
  rw [has, found]
  rfl

end Registry

namespace Validation

/-- What a call is about is there: its schema, a member of its group, or whatever its specification
names at any depth. -/
def Call.Resolved (r : Registry) : Call → Prop
  | .node _ name _ => r.has name = true
  | .choice _ group _ => r.choiceMembers group ≠ []
  | .value spec _ _ => spec.Every r.Whole

variable {rules : Rules}

/-- A call makes no call about something that is missing. -/
theorem Calls.resolved {call callee : Call} (h : Calls rules call callee)
    (coherent : rules.registry.Coherent) (whole : rules.registry.Every rules.registry.Whole)
    (value : ∀ spec raw place, call = .value spec raw place → spec.Every rules.registry.Whole) :
    callee.Resolved rules.registry := by
  cases h with
  | shortform found _ declared => exact whole.shortform found declared
  | field found _ declared => exact whole.field found declared
  | member member => exact coherent.has_of_member member
  | target kind named => exact (value _ _ _ rfl).self.registered kind named
  | group kind named => exact (value _ _ _ rfl).self.populated kind named
  | item => exact (value _ _ _ rfl).item
  | key => exact (value _ _ _ rfl).key
  | entry => exact (value _ _ _ rfl).value
  | @form info primitive complex raw place =>
    show FieldSpec.Every _ (if raw.isPrimitive then primitive else complex)
    cases raw.isPrimitive with
    | true => exact (value _ _ _ rfl).primitive
    | false => exact (value _ _ _ rfl).complex

/-- Of the calls that a call for a node leads to, all but that call itself are about something that
is there. -/
theorem Reaches.resolved (coherent : rules.registry.Coherent)
    (whole : rules.registry.Every rules.registry.Whole) {raw : Value} {name : String}
    {place : Place} {call : Call} (h : Reaches rules (.node raw name place) call) :
    call = .node raw name place ∨ call.Resolved rules.registry := by
  induction h with
  | refl => exact .inl rfl
  | tail _ calls ih =>
    refine .inr (calls.resolved coherent whole fun spec raw place same => ?_)
    subst same
    rcases ih with root | resolved
    · cases root
    · exact resolved

/-- Only a call for a schema that is not registered says so. -/
theorem Raises.absent {call : Call} {i : Issue} (h : Raises rules call i)
    (kind : i.kind = .schemaNotFound) : ∃ raw name place,
      call = .node raw name place ∧ rules.registry.has name = false ∧ i.path = place.path := by
  cases h with
  | @unregistered raw name _ place _ _ absent =>
    refine ⟨raw, name, place, rfl, ?_, rfl⟩
    rw [Registry.has, absent]
    rfl
  | unsuitable sort =>
    cases kind
    rcases sort with no | no <;> cases no
  | _ => cases kind

theorem RaisedFrom.absent (coherent : rules.registry.Coherent)
    (whole : rules.registry.Every rules.registry.Whole) {raw : Value} {name : String}
    {place : Place} {i : Issue} (h : RaisedFrom rules (.node raw name place) i)
    (kind : i.kind = .schemaNotFound) :
    i.path = place.path ∧ rules.registry.has name = false := by
  obtain ⟨call, reached, raised⟩ := h
  obtain ⟨raw', name', place', rfl, absent, path⟩ := raised.absent kind
  rcases reached.resolved coherent whole with root | registered
  · cases root
    exact ⟨path, absent⟩
  · cases absent.symm.trans registered

theorem issues_of_outcome {x : Except Fault (Option Node) × RunState} {issues : List Issue}
    (h : outcome x = .ok (.invalid issues)) : issues = x.2.issues.toList := by
  rcases x with ⟨_ | _ | n, s⟩
  · cases h
  · cases h
    rfl
  · cases clean : s.issues.isEmpty with
    | true => simp [outcome, clean] at h
    | false =>
      simp only [outcome, clean, Bool.false_eq_true, if_false, Except.ok.injEq,
        ValidationResult.invalid.injEq] at h
      exact h.symm

def rootCall (o : ValidateOptions) (raw : Value) (name : String) : Call :=
  .node raw name ⟨[], o.stack, o.kwargs, 1⟩

/-- What is said of the issues that the run of a validation adds holds of its issues. -/
theorem lawful_of_validate {r : Registry} {memory : Memory} {raw : Value} {name : String}
    {o : ValidateOptions} {law : Issue → Prop} {P : Option Node → Prop}
    (lawful : Coincides anywhere law (o.run r raw name) (o.run r raw name) P)
    {issues : List Issue}
    (returned : (r.validate memory raw name o).result = .ok (.invalid issues)) :
    ∀ i ∈ issues, law i := by
  rw [(validate_eq (frozen_of_ok returned) memory raw name o).1] at returned
  intro i hi
  rw [issues_of_outcome returned] at hi
  obtain ⟨-, lawful, -⟩ := lawful { memory } _ _ trivial rfl
  rcases lawful i (Array.mem_toList_iff.mp hi) with old | new
  · cases Array.not_mem_empty i old
  · exact new

/-- The issues of a validation are raised by calls that the call for its root leads to. -/
theorem raisedFrom_of_validate {r : Registry} (registered : r.Every (FieldSpec.Standard r.kinds))
    {memory : Memory} {raw : Value} {name : String} {o : ValidateOptions} {issues : List Issue}
    (returned : (r.validate memory raw name o).result = .ok (.invalid issues)) :
    ∀ i ∈ issues, RaisedFrom (o.rules r) (rootCall o raw name) i :=
  lawful_of_validate
    (checkNodeAt_raised registered (levels o.maxDepth) raw name ⟨[], o.stack, o.kwargs, 1⟩) returned

/-- A validation meets nothing that is missing, but for a root whose schema is not registered; and
only there an issue says that a schema was not found. -/
structure MeetsResolved (r : Registry) (o : ValidateOptions) (raw : Value) (name : String) :
    Prop where
  schemas : ∀ v schema place, Reaches (o.rules r) (rootCall o raw name) (.node v schema place) →
    Call.node v schema place = rootCall o raw name ∨ r.has schema = true
  groups : ∀ v group place, Reaches (o.rules r) (rootCall o raw name) (.choice v group place) →
    r.choiceMembers group ≠ []
  kinds : ∀ spec v place, Reaches (o.rules r) (rootCall o raw name) (.value spec v place) →
    r.kinds.has spec.kind = true
  raised : ∀ memory issues, (r.validate memory raw name o).result = .ok (.invalid issues) →
    ∀ i ∈ issues, RaisedFrom (o.rules r) (rootCall o raw name) i
  absent : ∀ memory issues, (r.validate memory raw name o).result = .ok (.invalid issues) →
    ∀ i ∈ issues, i.kind = .schemaNotFound → i.path = [] ∧ r.has name = false

theorem meetsResolved {r : Registry} (made : r.Made) (frozen : r.frozen = true)
    (standard : r.Every (FieldSpec.Standard r.kinds)) (o : ValidateOptions) (raw : Value)
    (name : String) : MeetsResolved r o raw name := by
  have coherent : (o.rules r).registry.Coherent := made.coherent
  have whole : (o.rules r).registry.Every (o.rules r).registry.Whole :=
    (made.resolved frozen).mono fun _ resolves => resolves.whole made
  constructor
  · intro v schema place reached
    exact reached.resolved coherent whole
  · intro v group place reached
    rcases reached.resolved coherent whole with root | populated
    · cases root
    · exact populated
  · intro spec v place reached
    rcases reached.resolved coherent whole with root | resolved
    · cases root
    · exact resolved.self.known
  · intro memory issues returned
    exact raisedFrom_of_validate standard returned
  · intro memory issues returned i hi kind
    exact (raisedFrom_of_validate standard returned i hi).absent coherent whole kind

end Validation

open Validation

namespace Library

/-- The library before any part of a book is registered. -/
def unfinished : Registry := { kinds := .builtin, schemas := [book] }

example : unfinished.freeze?.2 = [⟨"book", "parts", .choice, "part"⟩] := rfl

end Library

end ShapedTree
