import ShapedTree.Proofs.Run.Observation
import ShapedTree.Proofs.Schema.References
import ShapedTree.Proofs.Text.Version

namespace ShapedTree

namespace Registry

/-- A computation on a registry. What it has written stays where it fails later. -/
abbrev Action (α : Type) := ExceptT Fault (StateM Registry) α

/-- The schema joins its choice group. -/
def join (name : String) : Option Membership → Action Unit
  | none => return
  | some ⟨group, type⟩ => do
    let members := (← get).choiceMembers group
    match members.lookup type with
    | some holder => throw (.takenType group type holder)
    | none => modify fun r =>
      { r with choices := Entries.put r.choices group (Entries.put members type name) }

/-- Register a schema step by step: the choice groups change before the schemas do. -/
def registering (name : String) (fields : FieldList) (info : SchemaInfo) : Action Schema := do
  if (← get).frozen then throw (.registryFrozen name)
  if (← get).has name then throw (.duplicateSchema name)
  let specs ← fields.resolve
  match duplicate? [] (specs.map FieldSpec.name) with
  | some field => throw (.duplicateField name field)
  | none =>
    checkVersion name info.version
    join name info.choice
    let schema : Schema := ⟨name, specs, info⟩
    modify fun r => { r with schemas := r.schemas ++ [schema] }
    return schema

/-- Freeze the registry, or say what is unresolved. -/
def freezing : Action (List UnresolvedReference) := do
  if (← get).frozen then return []
  let references := (← get).unresolved
  if references = [] then modify fun r => { r with frozen := true }
  return references

/-- What a computation that is given the registry comes to, and the registry that is kept. -/
def keep {α : Type} (r : Registry) : Except Fault (Registry × α) → Except Fault α × Registry
  | .ok (r', a) => (.ok a, r')
  | .error e => (.error e, r)

theorem keep_bind {α β : Type} (r : Registry) (e : Except Fault α)
    (f : α → Except Fault (Registry × β)) :
    keep r (e >>= f) = match e with
      | .ok a => keep r (f a)
      | .error e => (.error e, r) := by
  cases e <;> rfl

theorem join_apply (name : String) (choice : Option Membership) (r : Registry) :
    join name choice r =
      keep r ((r.addMember name choice).map fun choices => ({ r with choices }, ())) := by
  cases choice with
  | none => rfl
  | some membership =>
    obtain ⟨group, type⟩ := membership
    simp only [join, addMember, Computation.get_bind_apply]
    cases (r.choiceMembers group).lookup type with
    | none => rfl
    | some holder => rfl

theorem registering_apply (name : String) (fields : FieldList) (info : SchemaInfo) (r : Registry) :
    registering name fields info r = keep r (r.register? name fields info) := by
  obtain ⟨kinds, schemas, choices, frozen⟩ := r
  unfold registering register?
  rw [Computation.get_bind_apply]
  cases frozen with
  | true => rfl
  | false =>
    simp only [Bool.false_eq_true, if_false, Computation.get_bind_apply]
    cases Registry.has ⟨kinds, schemas, choices, false⟩ name with
    | true => rfl
    | false =>
      simp only [Bool.false_eq_true, if_false, Computation.lift_bind_apply, keep_bind]
      cases fields.resolve with
      | error e => rfl
      | ok specs =>
        simp only
        cases duplicate? [] (specs.map FieldSpec.name) with
        | some field => rfl
        | none =>
          simp only [Computation.lift_bind_apply, keep_bind]
          cases checkVersion name info.version with
          | error e => rfl
          | ok _ =>
            simp only [Computation.bind_apply, join_apply]
            cases Registry.addMember ⟨kinds, schemas, choices, false⟩ name info.choice with
            | error e => rfl
            | ok choices => rfl

theorem freezing_apply (r : Registry) :
    freezing r = (.ok r.freeze?.2, r.freeze?.1) := by
  unfold freezing freeze?
  rw [Computation.get_bind_apply]
  cases r.frozen with
  | true => rfl
  | false =>
    simp only [Bool.false_eq_true, if_false, Computation.get_bind_apply]
    by_cases none : r.unresolved = []
    · simp only [none, if_true]
      rfl
    · simp only [none, if_false]
      rfl

/-- A call on a registry. -/
inductive Call where
  | register (name : String) (fields : FieldList) (info : SchemaInfo)
  | freeze

/-- What a call answers: the schema, or what is unresolved. -/
inductive Reply where
  | schema (s : Schema)
  | unresolved (references : List UnresolvedReference)

/-- The call has failed, or it has found unresolved references. -/
def Refused : Except Fault Reply → Prop
  | .error _ => True
  | .ok (.unresolved references) => references ≠ []
  | .ok (.schema _) => False

def Call.perform : Call → Action Reply
  | .register name fields info => do return .schema (← registering name fields info)
  | .freeze => do return .unresolved (← freezing)

/-- The registry after calls, whatever they answered. -/
def after (r : Registry) (calls : List Call) : Registry :=
  calls.foldl (fun r call => (call.perform r).2) r

theorem perform_register (name : String) (fields : FieldList) (info : SchemaInfo) (r : Registry) :
    Call.perform (.register name fields info) r =
      match r.register? name fields info with
      | .ok (r', s) => (.ok (.schema s), r')
      | .error e => (.error e, r) := by
  simp only [Call.perform, Computation.bind_apply, registering_apply]
  rcases r.register? name fields info with e | ⟨r', s⟩ <;> rfl

theorem perform_freeze (r : Registry) :
    Call.perform .freeze r = (.ok (.unresolved r.freeze?.2), r.freeze?.1) := by
  simp only [Call.perform, Computation.bind_apply, freezing_apply]
  rfl

/-- A call makes history: it fails and leaves the registry, or it registers, or it freezes. -/
theorem perform_made {r : Registry} (made : r.Made) (call : Call) : (call.perform r).2.Made := by
  cases call with
  | register name fields info =>
    rw [perform_register]
    cases registered : r.register? name fields info with
    | error e => exact made
    | ok reply => exact .schema made registered
  | freeze =>
    rw [perform_freeze]
    exact .freeze made

theorem after_made {r : Registry} (made : r.Made) (calls : List Call) : (r.after calls).Made := by
  induction calls generalizing r with
  | nil => exact made
  | cons call calls ih => exact ih (perform_made made call)

theorem perform_refused {r : Registry} {call : Call} (refused : Refused (call.perform r).1) :
    (call.perform r).2 = r := by
  cases call with
  | register name fields info =>
    rw [perform_register] at refused ⊢
    cases registered : r.register? name fields info with
    | error e => rfl
    | ok reply =>
      rw [registered] at refused
      exact refused.elim
  | freeze =>
    rw [perform_freeze] at refused ⊢
    rcases freeze?_eq r with ⟨heq, -⟩ | ⟨-, -, heq⟩
    · rw [heq]
    · rw [heq] at refused
      exact absurd rfl refused

theorem perform_frozen {r : Registry} (frozen : r.frozen = true) (call : Call) :
    (call.perform r).2 = r := by
  cases call with
  | register name fields info =>
    rw [perform_register]
    cases registered : r.register? name fields info with
    | error e => rfl
    | ok reply =>
      obtain ⟨-, -, -, -, ⟨opened, -⟩, -⟩ := register?_eq_ok registered
      cases opened.symm.trans frozen
  | freeze =>
    rw [perform_freeze]
    rcases freeze?_eq r with ⟨heq, -⟩ | ⟨opened, -, -⟩
    · rw [heq]
    · cases opened.symm.trans frozen

theorem after_frozen {r : Registry} (frozen : r.frozen = true) (calls : List Call) :
    r.after calls = r := by
  induction calls with
  | nil => rfl
  | cons call calls ih =>
    have stays : r.after (call :: calls) = after (call.perform r).2 calls := rfl
    rw [stays, perform_frozen frozen call]
    exact ih

/-- What holds of a registry between calls: names are unique, versions are semantic versions, the
choice groups list the schemas that join them and no group is empty, and freezing resolves every
reference. -/
structure Consistent (r : Registry) : Prop where
  names : r.names.Nodup
  fields : ∀ s ∈ r.schemas, s.fieldNames.Nodup
  versions : ∀ s ∈ r.schemas, ∀ version, s.info.version = some version →
    SemVer.Version version.toList
  members : ∀ group type name, (r.choiceMembers group).lookup type = some name ↔
    ∃ s ∈ r.schemas, s.name = name ∧ s.info.choice = some ⟨group, type⟩
  groups : ∀ group, r.hasChoice group = true → r.choiceMembers group ≠ []
  resolved : r.frozen = true → r.Every r.Resolves

theorem Coherent.find?_eq_some {r : Registry} (coherent : r.Coherent) {name : String}
    {s : Schema} : r.find? name = some s ↔ s ∈ r.schemas ∧ s.name = name := by
  constructor
  · intro found
    exact ⟨List.mem_of_find?_eq_some found, name_of_find? found⟩
  · rintro ⟨hs, rfl⟩
    have known : (r.find? s.name).isSome = true := List.find?_isSome.mpr ⟨s, hs, beq_self_eq_true _⟩
    obtain ⟨t, found⟩ := Option.isSome_iff_exists.mp known
    have same : t = s := List.inj_on_of_nodup_map coherent.names
      (List.mem_of_find?_eq_some found) hs (name_of_find? found)
    rw [found, same]

theorem Made.consistent {r : Registry} (made : r.Made) : r.Consistent where
  names := made.coherent.names
  fields := made.coherent.fields
  versions s hs version given := SemVer.version_of_accepts (made.versions s hs version given)
  members group type name := by
    have distinct := made.coherent.types group
    have listed : (r.choiceMembers group).lookup type = some name ↔
        (type, name) ∈ r.choiceMembers group :=
      ⟨Entries.mem_of_lookup, Entries.lookup_of_mem distinct⟩
    rw [listed, made.coherent.member_iff]
    simp only [made.coherent.find?_eq_some, and_assoc]
  groups group known := by
    obtain ⟨members, hm⟩ := Option.ne_none_iff_exists'.mp
      (mt Entries.lookup_eq_none_iff.mp (not_not.mpr (Entries.has_iff.mp known)))
    rw [choiceMembers, hm]
    exact made.populated group members hm
  resolved := made.resolved

/-- After any calls on a new registry it is consistent; a call that is refused leaves it as it is,
and once it is frozen no later call changes it. -/
theorem after_consistent (kinds : KindCatalog) (calls : List Call) :
    let r := after { kinds } calls
    r.Consistent ∧ (∀ call : Call, Refused (call.perform r).1 → (call.perform r).2 = r) ∧
      (r.frozen = true → ∀ later, r.after later = r) :=
  ⟨(after_made (.empty kinds) calls).consistent, fun _ => perform_refused, after_frozen⟩

end Registry

end ShapedTree
