import ShapedTree.Dispatch
import ShapedTree.Proofs.Record.Lookup

namespace ShapedTree

/-- One registration: an implementation of an operation for several schemas. -/
structure Registration where
  op : Operation
  schemas : List String
  impl : Implementation

namespace Registration

/-- The implementation with the arguments that its registration requires. -/
def binding (reg : Registration) : Binding := ⟨reg.impl, reg.op.requires⟩

/-- A registration is for a schema and the name of an operation. -/
def For (reg : Registration) (schema operation : String) : Prop :=
  schema ∈ reg.schemas ∧ reg.op.name = operation

end Registration

namespace Dispatcher

/-- A dispatcher that was made by registrations, which are refused unless they succeed as a whole.
The registry may grow between them. -/
inductive Made : Dispatcher → List Registration → Prop
  | new (maxDepth : Option Number) : Made { maxDepth } []
  | register {d d' : Dispatcher} {regs : List Registration} {r : Registry} (reg : Registration)
      (before : Made d regs) (done : d.register r reg.op reg.schemas reg.impl = .ok d') :
      Made d' (regs ++ [reg])

variable {d d' : Dispatcher} {r : Registry} {op : Operation} {impl : Implementation}

theorem find?_bind (d : Dispatcher) (op : Operation) (impl : Implementation)
    (name schema operation : String) :
    (d.bind op impl name).find? schema operation =
      if schema = name ∧ operation = op.name then some ⟨impl, op.requires⟩
      else d.find? schema operation := by
  unfold find? table bind
  rw [Entries.lookup_put]
  by_cases same : schema = name
  · subst same
    rw [if_pos rfl, Option.getD_some, Entries.lookup_put]
    by_cases named : operation = op.name
    · rw [if_pos named, if_pos ⟨rfl, named⟩]
    · rw [if_neg named, if_neg fun h => named h.2]
      rfl
  · rw [if_neg same, if_neg fun h => same h.1]

theorem find?_bindAll (d : Dispatcher) (op : Operation) (impl : Implementation)
    (names : List String) (schema operation : String) :
    (names.foldl (fun d name => d.bind op impl name) d).find? schema operation =
      if schema ∈ names ∧ operation = op.name then some ⟨impl, op.requires⟩
      else d.find? schema operation := by
  induction names generalizing d with
  | nil => simp
  | cons name rest ih =>
    rw [List.foldl_cons, ih, find?_bind]
    by_cases named : operation = op.name
    · by_cases later : schema ∈ rest
      · simp [later, named]
      · simp [later, named]
    · simp [named]

/-- The check passes if every schema is registered and none has an implementation. -/
theorem checkFree_eq_ok {names : List String} :
    d.checkFree r op names = .ok () ↔
      ∀ name ∈ names, r.has name = true ∧ d.find? name op.name = none := by
  induction names with
  | nil => simp [checkFree]
  | cons name rest ih =>
    unfold checkFree Registry.lookup
    rw [List.forall_mem_cons, ← ih, Registry.has]
    cases r.find? name with
    | none =>
      refine ⟨nofun, ?_⟩
      rintro ⟨⟨unknown, -⟩, -⟩
      cases unknown
    | some schema =>
      rw [has]
      cases d.find? name op.name with
      | none => exact ⟨fun later => ⟨⟨rfl, rfl⟩, later⟩, fun h => h.2⟩
      | some binding =>
        refine ⟨nofun, ?_⟩
        rintro ⟨⟨-, taken⟩, -⟩
        cases taken

/-- When a registration succeeds, and what it does then. -/
theorem register_eq_ok {reg : Registration} :
    d.register r reg.op reg.schemas reg.impl = .ok d' ↔
      (∀ name ∈ reg.schemas, r.has name = true ∧ d.find? name reg.op.name = none) ∧
        d' = reg.schemas.foldl (fun d name => d.bind reg.op reg.impl name) d := by
  rw [← checkFree_eq_ok, register]
  cases d.checkFree r reg.op reg.schemas with
  | error fault =>
    refine ⟨nofun, ?_⟩
    rintro ⟨refused, -⟩
    cases refused
  | ok =>
    constructor
    · intro done
      exact ⟨rfl, (Except.ok.inj done).symm⟩
    · rintro ⟨-, rfl⟩
      rfl

/-- A dispatcher finds what was registered. -/
theorem Made.find?_eq_some_iff {regs : List Registration} (made : d.Made regs)
    {schema operation : String} {binding : Binding} :
    d.find? schema operation = some binding ↔
      ∃ reg ∈ regs, reg.For schema operation ∧ reg.binding = binding := by
  induction made with
  | new maxDepth => simp [find?, table]
  | @register d d' regs r reg before done ih =>
    obtain ⟨free, rfl⟩ := register_eq_ok.mp done
    rw [find?_bindAll]
    by_cases own : schema ∈ reg.schemas ∧ operation = reg.op.name
    · obtain ⟨mem, rfl⟩ := own
      rw [if_pos ⟨mem, rfl⟩]
      constructor
      · intro same
        exact ⟨reg, by simp, ⟨mem, rfl⟩, Option.some.inj same⟩
      · rintro ⟨other, hother, concerns, rfl⟩
        rcases List.mem_append.mp hother with old | last
        · -- An earlier registration would have stood against this one.
          have found := ih.mpr ⟨other, old, concerns, rfl⟩
          cases (free schema mem).2.symm.trans found
        · cases List.mem_singleton.mp last
          rfl
    · rw [if_neg own, ih]
      constructor
      · rintro ⟨other, old, rest⟩
        exact ⟨other, List.mem_append_left _ old, rest⟩
      · rintro ⟨other, hother, concerns, same⟩
        rcases List.mem_append.mp hother with old | last
        · exact ⟨other, old, concerns, same⟩
        · cases List.mem_singleton.mp last
          exact absurd ⟨concerns.1, concerns.2.symm⟩ own

theorem Made.find?_eq_none_iff {regs : List Registration} (made : d.Made regs)
    {schema operation : String} :
    d.find? schema operation = none ↔ ∀ reg ∈ regs, ¬ reg.For schema operation := by
  constructor
  · intro none reg hreg concerns
    cases none.symm.trans (made.find?_eq_some_iff.mpr ⟨reg, hreg, concerns, rfl⟩)
  · intro never
    cases found : d.find? schema operation with
    | none => rfl
    | some binding =>
      obtain ⟨reg, hreg, concerns, -⟩ := made.find?_eq_some_iff.mp found
      exact (never reg hreg concerns).elim

/-- There is one implementation for a schema and the name of an operation. -/
theorem Made.unique {regs : List Registration} (made : d.Made regs) {schema operation : String}
    {reg reg' : Registration} (mem : reg ∈ regs) (mem' : reg' ∈ regs)
    (h : reg.For schema operation) (h' : reg'.For schema operation) :
    reg.binding = reg'.binding := by
  have found := made.find?_eq_some_iff.mpr ⟨reg, mem, h, rfl⟩
  have found' := made.find?_eq_some_iff.mpr ⟨reg', mem', h', rfl⟩
  exact Option.some.inj (found.symm.trans found')

end Dispatcher

end ShapedTree
