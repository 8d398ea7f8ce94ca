import ShapedTree.Proofs.Dispatch.Steps
import ShapedTree.Proofs.Schema.Calls
import ShapedTree.Proofs.Text.UnitOrder

namespace ShapedTree

instance (reg : Registration) (schema operation : String) : Decidable (reg.For schema operation) :=
  inferInstanceAs (Decidable (_ ∧ _))

/-- No call takes a schema away. -/
theorem Registry.has_perform {r : Registry} {name : String} (known : r.has name = true)
    (call : Call) : (call.perform r).2.has name = true := by
  cases call with
  | register other fields info =>
    rw [perform_register]
    cases registered : r.register? other fields info with
    | error e => exact known
    | ok reply =>
      obtain ⟨-, -, -, -, -, choices, -, made⟩ := register?_eq_ok registered
      obtain ⟨s, found⟩ := Option.isSome_iff_exists.mp known
      have stays : reply.1.find? name = some s := by
        rw [made]
        exact List.find?_append.trans (by rw [show r.schemas.find? _ = some s from found]; rfl)
      exact Option.isSome_iff_exists.mpr ⟨s, stays⟩
  | freeze =>
    rw [perform_freeze]
    rcases freeze?_eq r with ⟨same, -⟩ | ⟨-, -, frozen⟩
    · rw [same]
      exact known
    · rw [frozen]
      exact known

namespace Dispatcher

/-- The names are checked one after another; nothing is written. -/
def checking (r : Registry) (op : Operation) : List String → Computation Dispatcher Unit
  | [] => return
  | name :: rest => do
    let _ ← (liftM (r.lookup name) : Computation Dispatcher Schema)
    if (← get).has name op.name then throw (.duplicateOperation op.name name)
    checking r op rest

/-- The names are written one after another, each in its own table first and then in that of the
operation. -/
def writing (op : Operation) (impl : Implementation) :
    List String → Computation Dispatcher Unit
  | [] => return
  | name :: rest => do
    let own := (← get).table name
    modify fun d => { d with
      bySchema := Entries.put d.bySchema name (Entries.put own op.name ⟨impl, op.requires⟩) }
    let known := ((← get).implementers op.name).getD []
    modify fun d => { d with
      byOperation := Entries.put d.byOperation op.name
        (if known.contains name then known else known ++ [name]) }
    writing op impl rest

/-- Register an implementation step by step. -/
def registering (r : Registry) (reg : Registration) : Computation Dispatcher Unit := do
  checking r reg.op reg.schemas
  writing reg.op reg.impl reg.schemas

variable {d d' : Dispatcher} {r : Registry} {op : Operation} {impl : Implementation}

theorem checking_apply (names : List String) :
    checking r op names d = (d.checkFree r op names, d) := by
  induction names with
  | nil => rfl
  | cons name rest ih =>
    unfold checking checkFree
    rw [Computation.lift_bind_apply]
    cases r.lookup name with
    | error fault => rfl
    | ok schema =>
      simp only [Computation.get_bind_apply]
      cases d.has name op.name with
      | true => rfl
      | false => exact ih

theorem writing_apply (names : List String) :
    writing op impl names d = (.ok (), names.foldl (fun d name => d.bind op impl name) d) := by
  induction names generalizing d with
  | nil => rfl
  | cons name rest ih => exact ih

theorem registering_apply (reg : Registration) :
    registering r reg d = match d.register r reg.op reg.schemas reg.impl with
      | .ok d' => (.ok (), d')
      | .error fault => (.error fault, d) := by
  unfold registering register
  rw [Computation.bind_apply, checking_apply]
  cases d.checkFree r reg.op reg.schemas with
  | error fault => rfl
  | ok => exact writing_apply reg.schemas

/-- Both tables of a dispatcher tell of the same implementations, and of each of them once. -/
structure Mirrored (d : Dispatcher) : Prop where
  agree : ∀ schema operation, d.has schema operation = true ↔
    ∃ names, d.implementers operation = some names ∧ schema ∈ names
  inhabited : ∀ operation names, d.implementers operation = some names → names ≠ []
  distinct : ∀ operation names, d.implementers operation = some names → names.Nodup
  distinctOperations : (Entries.keys d.byOperation).Nodup
  distinctTables : ∀ schema, (Entries.keys (d.table schema)).Nodup

theorem implementers_bind (d : Dispatcher) (op : Operation) (impl : Implementation)
    (name operation : String) :
    (d.bind op impl name).implementers operation =
      if operation = op.name then
        let known := (d.implementers op.name).getD []
        some (if known.contains name then known else known ++ [name])
      else d.implementers operation :=
  Entries.lookup_put ..

theorem table_bind (d : Dispatcher) (op : Operation) (impl : Implementation)
    (name schema : String) :
    (d.bind op impl name).table schema =
      if schema = name then Entries.put (d.table name) op.name ⟨impl, op.requires⟩
      else d.table schema := by
  unfold table bind
  rw [Entries.lookup_put]
  split <;> rfl

/-- The schemas of an operation after one more of them is known. -/
theorem mem_known {names : List String} {name schema : String} :
    schema ∈ (if names.contains name then names else names ++ [name]) ↔
      schema ∈ names ∨ schema = name := by
  split
  next known =>
    have old : name ∈ names := List.contains_iff_mem.mp known
    constructor
    · exact .inl
    · rintro (h | rfl)
      · exact h
      · exact old
  next => simp

theorem nodup_known {names : List String} (distinct : names.Nodup) (name : String) :
    (if names.contains name then names else names ++ [name]).Nodup := by
  split
  next => exact distinct
  next unknown =>
    rw [← List.concat_eq_append]
    exact distinct.concat (mt List.contains_iff_mem.mpr unknown)

theorem Mirrored.bind (mirrored : d.Mirrored) (op : Operation) (impl : Implementation)
    (name : String) : (d.bind op impl name).Mirrored where
  agree schema operation := by
    rw [has, find?_bind, implementers_bind]
    by_cases named : operation = op.name
    · subst named
      rw [if_pos rfl]
      simp only [and_true, Option.some.injEq, exists_eq_left', mem_known]
      have before := mirrored.agree schema op.name
      by_cases own : schema = name
      · simp [own]
      · rw [if_neg own, ← has, before]
        cases d.implementers op.name with
        | none => simp [own]
        | some names => simp [own]
    · rw [if_neg named, if_neg fun h => named h.2]
      exact mirrored.agree schema operation
  inhabited operation names listed := by
    rw [implementers_bind] at listed
    split at listed
    next =>
      cases listed
      exact List.ne_nil_of_mem (mem_known.mpr (.inr rfl))
    next => exact mirrored.inhabited operation names listed
  distinct operation names listed := by
    rw [implementers_bind] at listed
    split at listed
    next =>
      cases listed
      apply nodup_known
      cases known : d.implementers op.name with
      | none => exact List.nodup_nil
      | some old => exact mirrored.distinct op.name old known
    next => exact mirrored.distinct operation names listed
  distinctOperations := Entries.nodup_put mirrored.distinctOperations op.name _
  distinctTables schema := by
    rw [table_bind]
    split
    next => exact Entries.nodup_put (mirrored.distinctTables name) op.name _
    next => exact mirrored.distinctTables schema

theorem Mirrored.bindAll (mirrored : d.Mirrored) (op : Operation) (impl : Implementation)
    (names : List String) :
    (names.foldl (fun d name => d.bind op impl name) d).Mirrored := by
  induction names generalizing d with
  | nil => exact mirrored
  | cons name rest ih => exact ih (mirrored.bind op impl name)

/-- The first registration that is for a schema and an operation decides. -/
theorem find?_register {reg : Registration}
    (done : d.register r reg.op reg.schemas reg.impl = .ok d') (schema operation : String) :
    d'.find? schema operation =
      (d.find? schema operation).or
        (([reg].find? fun reg => reg.For schema operation).map Registration.binding) := by
  obtain ⟨free, rfl⟩ := register_eq_ok.mp done
  rw [find?_bindAll]
  by_cases own : reg.For schema operation
  · obtain ⟨mem, rfl⟩ := own
    rw [if_pos ⟨mem, rfl⟩, (free schema mem).2]
    simp [Registration.For, mem, Registration.binding]
  · rw [if_neg fun h => own ⟨h.1, h.2.symm⟩]
    simp [own]

theorem mem_operations {schema operation : String} :
    operation ∈ d.operations (some schema) ↔ d.has schema operation = true := by
  rw [operations, Text.mem_sortByUnits, has, Option.isSome_iff_ne_none, find?, ne_eq,
    Entries.lookup_eq_none_iff, not_not]
  rfl

/-- The operations are those that some schema implements. -/
theorem Mirrored.mem_operations (mirrored : d.Mirrored) {operation : String} :
    operation ∈ d.operations none ↔ ∃ schema, operation ∈ d.operations (some schema) := by
  have listed : operation ∈ d.operations none ↔ ∃ names, d.implementers operation = some names := by
    rw [operations, Text.mem_sortByUnits, ← Option.ne_none_iff_exists', implementers, ne_eq,
      Entries.lookup_eq_none_iff, not_not]
    rfl
  simp only [listed, Dispatcher.mem_operations, mirrored.agree]
  constructor
  · rintro ⟨names, known⟩
    obtain ⟨schema, mem⟩ :=
      List.exists_mem_of_ne_nil names (mirrored.inhabited operation names known)
    exact ⟨schema, names, known, mem⟩
  · rintro ⟨schema, names, known, -⟩
    exact ⟨names, known⟩

/-- The advice lists all schemas that implement the operation, in order; there is none if no schema
does. -/
def Lists (d : Dispatcher) (operation : String) : Option String → Prop
  | none => ∀ schema, d.has schema operation = false
  | some advice => ∃ names : List String, names.Pairwise Text.Before ∧
      (∀ schema, schema ∈ names ↔ d.has schema operation = true) ∧ names ≠ [] ∧
      let listed := ", ".intercalate names
      advice = s!"'{operation}' is implemented for: {listed}."

/-- An operation that the schema implements is close to the name, or the advice lists schemas. -/
def Advises (d : Dispatcher) (operation schema : String) (hint : Option String) : Prop :=
  match didYouMean operation (Entries.keys (d.table schema)) with
  | some close => hint = some close
  | none => d.Lists operation hint

theorem Mirrored.suggestFor (mirrored : d.Mirrored) (operation schema : String) :
    d.Advises operation schema (d.suggestFor operation schema) := by
  unfold Advises Dispatcher.suggestFor
  cases didYouMean operation (Entries.keys (d.table schema)) with
  | some close => rfl
  | none =>
    cases known : d.implementers operation with
    | none =>
      intro other
      rw [← Bool.not_eq_true, mirrored.agree, known]
      simp
    | some names =>
      have inhabited := mirrored.inhabited operation names known
      refine ⟨Text.sortByUnits names,
        Text.sortByUnits_ascending (mirrored.distinct operation names known),
        fun other => ?_, ?_, rfl⟩
      · rw [mirrored.agree, known, Text.mem_sortByUnits]
        simp
      · obtain ⟨other, mem⟩ := List.exists_mem_of_ne_nil names inhabited
        exact List.ne_nil_of_mem (Text.mem_sortByUnits.mpr mem)

/-- A registry and a dispatcher on it. -/
structure Setup where
  registry : Registry
  dispatcher : Dispatcher

/-- A call on a dispatcher, or on its registry. -/
inductive Call where
  | declare (call : Registry.Call)
  | register (reg : Registration)

/-- What a call comes to, and what it leaves. -/
def Call.perform : Call → Setup → Except Fault Unit × Setup
  | .declare call, w =>
    ((call.perform w.registry).1.map fun _ => (),
      { w with registry := (call.perform w.registry).2 })
  | .register reg, w =>
    ((registering w.registry reg w.dispatcher).1,
      { w with dispatcher := (registering w.registry reg w.dispatcher).2 })

/-- The registration that a call makes if it succeeds. -/
def Call.accepted : Call → Setup → List Registration
  | .declare _, _ => []
  | .register reg, w =>
    match (Call.perform (.register reg) w).1 with
    | .ok _ => [reg]
    | .error _ => []

namespace Setup

/-- What calls leave, whatever they came to. -/
def after (w : Setup) (calls : List Call) : Setup :=
  calls.foldl (fun w call => (call.perform w).2) w

/-- The registrations that succeed, in the order of the calls. -/
def accepted (w : Setup) : List Call → List Registration
  | [] => []
  | call :: calls => call.accepted w ++ accepted (call.perform w).2 calls

end Setup

theorem perform_register (reg : Registration) (w : Setup) :
    Call.perform (.register reg) w =
      match w.dispatcher.register w.registry reg.op reg.schemas reg.impl with
      | .ok d' => (.ok (), { w with dispatcher := d' })
      | .error fault => (.error fault, w) := by
  simp only [Call.perform, registering_apply]
  cases w.dispatcher.register w.registry reg.op reg.schemas reg.impl <;> rfl

/-- A call that fails leaves everything as it was. -/
theorem perform_error {w : Setup} {call : Call} {fault : Fault}
    (failed : (call.perform w).1 = .error fault) : (call.perform w).2 = w := by
  cases call with
  | declare call =>
    have refused : Registry.Refused (call.perform w.registry).1 := by
      simp only [Call.perform] at failed
      cases answer : (call.perform w.registry).1 with
      | error _ => trivial
      | ok reply =>
        rw [answer] at failed
        cases failed
    have stays : (call.perform w.registry).2 = w.registry := Registry.perform_refused refused
    simp only [Call.perform, stays]
  | register reg =>
    rw [perform_register] at failed ⊢
    cases done : w.dispatcher.register w.registry reg.op reg.schemas reg.impl with
    | error _ => rfl
    | ok d' =>
      rw [done] at failed
      cases failed

/-- What holds between calls, given the registrations that have succeeded. -/
structure Setup.Sound (w : Setup) (regs : List Registration) : Prop where
  made : w.dispatcher.Made regs
  mirrored : w.dispatcher.Mirrored
  registered : ∀ schema operation, w.dispatcher.has schema operation = true →
    w.registry.has schema = true
  first : ∀ schema operation, w.dispatcher.find? schema operation =
    (regs.find? fun reg => reg.For schema operation).map Registration.binding

theorem Setup.Sound.new (registry : Registry) (maxDepth : Option Number) :
    Sound ⟨registry, { maxDepth }⟩ [] where
  made := .new maxDepth
  mirrored := {
    agree := by simp [has, find?, table, implementers]
    inhabited := nofun
    distinct := nofun
    distinctOperations := List.nodup_nil
    distinctTables := fun _ => List.nodup_nil }
  registered := nofun
  first _ _ := rfl

theorem Setup.Sound.perform {w : Setup} {regs : List Registration} (sound : w.Sound regs)
    (call : Call) : (call.perform w).2.Sound (regs ++ call.accepted w) := by
  cases call with
  | declare call =>
    simp only [Call.accepted, List.append_nil]
    exact ⟨sound.made, sound.mirrored,
      fun schema operation bound => Registry.has_perform (sound.registered schema operation bound) call,
      sound.first⟩
  | register reg =>
    simp only [Call.accepted, perform_register]
    cases done : w.dispatcher.register w.registry reg.op reg.schemas reg.impl with
    | error fault =>
      simpa using sound
    | ok d' =>
      obtain ⟨free, wrote⟩ := register_eq_ok.mp done
      refine ⟨.register reg sound.made done, ?_, fun schema operation bound => ?_,
        fun schema operation => ?_⟩
      · rw [wrote]
        exact sound.mirrored.bindAll reg.op reg.impl reg.schemas
      · rw [has, wrote, find?_bindAll] at bound
        split at bound
        next own => exact (free schema own.1).1
        next => exact sound.registered schema operation bound
      · rw [find?_register done, sound.first, List.find?_append, Option.map_or]

theorem Setup.Sound.after {w : Setup} {regs : List Registration} (sound : w.Sound regs)
    (calls : List Call) : (w.after calls).Sound (regs ++ w.accepted calls) := by
  induction calls generalizing w regs with
  | nil =>
    rw [accepted, List.append_nil]
    exact sound
  | cons call calls ih =>
    rw [accepted, ← List.append_assoc]
    exact ih (sound.perform call)

/-- What a caller can rely on between calls. -/
structure Setup.Consistent (w : Setup) (regs : List Registration) : Prop where
  agree : ∀ schema operation, w.dispatcher.has schema operation = true ↔
    ∃ names, w.dispatcher.implementers operation = some names ∧ schema ∈ names
  own : ∀ schema, (w.dispatcher.operations (some schema)).Pairwise Text.Before ∧
    ∀ operation, operation ∈ w.dispatcher.operations (some schema) ↔
      w.dispatcher.has schema operation = true
  union : (w.dispatcher.operations none).Pairwise Text.Before ∧
    ∀ operation, operation ∈ w.dispatcher.operations none ↔
      ∃ schema, operation ∈ w.dispatcher.operations (some schema)
  advice : ∀ op node (stack : List NodeView) kwargs message hint,
    w.dispatcher.select w.registry op node (stack.length + 1) kwargs =
      .error (.dispatch .unknownOperation message hint) →
    w.dispatcher.has node.schema op.name = false ∧
      w.dispatcher.Advises op.name node.schema hint
  registered : ∀ schema operation, w.dispatcher.has schema operation = true →
    w.registry.has schema = true
  first : ∀ schema operation, w.dispatcher.find? schema operation =
    (regs.find? fun reg => reg.For schema operation).map Registration.binding

theorem Setup.Sound.advice {w : Setup} {regs : List Registration} (sound : w.Sound regs)
    {op : Operation} {node : Node} {stack : List NodeView} {kwargs : Kwargs} {message : String}
    {hint : Option String}
    (unknown : w.dispatcher.select w.registry op node (stack.length + 1) kwargs =
      .error (.dispatch .unknownOperation message hint)) :
    w.dispatcher.has node.schema op.name = false ∧
      w.dispatcher.Advises op.name node.schema hint := by
  obtain ⟨schema, reg, chosen, -⟩ | ⟨fault, refused, offends⟩ :=
    select_cases (r := w.registry) sound.made op node stack kwargs
  · cases unknown.symm.trans chosen
  · cases offends with
    | operation admitted known never =>
      cases unknown.symm.trans refused
      have none := sound.made.find?_eq_none_iff.mpr never
      exact ⟨by rw [has, none]; rfl, sound.mirrored.suggestFor op.name node.schema⟩
    | depth => cases unknown.symm.trans refused
    | schema => cases unknown.symm.trans refused
    | argument => cases unknown.symm.trans refused

theorem Setup.Sound.consistent {w : Setup} {regs : List Registration} (sound : w.Sound regs) :
    w.Consistent regs where
  agree := sound.mirrored.agree
  own schema := ⟨Text.sortByUnits_ascending (sound.mirrored.distinctTables schema),
    fun _ => mem_operations⟩
  union := ⟨Text.sortByUnits_ascending sound.mirrored.distinctOperations,
    fun _ => sound.mirrored.mem_operations⟩
  advice _ _ _ _ _ _ := sound.advice
  registered := sound.registered
  first := sound.first

/-- After any calls the tables of a new dispatcher agree; a call that fails leaves everything as it
was, and an implementation that is there stays for ever. -/
theorem calls_consistent (registry : Registry) (maxDepth : Option Number) (calls : List Call) :
    let start : Setup := ⟨registry, { maxDepth }⟩
    let w := start.after calls
    w.Consistent (start.accepted calls) ∧
      (∀ call fault, (Call.perform call w).1 = .error fault → (call.perform w).2 = w) ∧
      ∀ schema operation binding, w.dispatcher.find? schema operation = some binding →
        ∀ later, (w.after later).dispatcher.find? schema operation = some binding := by
  intro start w
  have sound : w.Sound (start.accepted calls) := (Setup.Sound.new registry maxDepth).after calls
  refine ⟨sound.consistent, fun _ _ => perform_error, fun schema operation binding bound later => ?_⟩
  rw [(sound.after later).first, List.find?_append, Option.map_or, ← sound.first, bound]
  rfl

end Dispatcher

end ShapedTree
